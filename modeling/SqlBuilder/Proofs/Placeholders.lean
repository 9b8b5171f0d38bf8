import SqlBuilder.Proofs.Quoting
import SqlBuilder.Proofs.Reachable
import SqlBuilder.Proofs.Render.Written
import SqlBuilder.Proofs.Slots

set_option autoImplicit false

/-! # Placeholders and the values that back them

The text of a query and its values are made separately, and a reader of the text finds the
placeholders on its own, by looking for `?` outside quoted names. A text is *aligned* with a list of
values if the reader finds one placeholder for each value and, filling them in, gets the text that
shows the values in the places where they belong. What is written from aligned parts is aligned. -/

namespace SqlBuilder

/-! ## Reading a text piece by piece -/

theorem markPlaceholders_append (quoted : Bool) (a b : List Char) :
    markPlaceholders quoted (a ++ b)
      = markPlaceholders quoted a ++ markPlaceholders (quotedAfter quoted a) b := by
  induction a generalizing quoted with
  | nil => rfl
  | cons c rest ih =>
      simp only [List.cons_append, markPlaceholders, quotedAfter]
      rw [ih]

/-- The values of the first piece are used up by its placeholders. -/
theorem fillPlaceholders_append {a : List (Char × Bool)} {params : List Value}
    (h : a.countP (·.2) = params.length) (b : List (Char × Bool)) (more : List Value) :
    fillPlaceholders (a ++ b) (params ++ more)
      = fillPlaceholders a params ++ fillPlaceholders b more := by
  induction a generalizing params with
  | nil =>
      have none : params = [] := List.length_eq_zero_iff.1 (by simpa using h.symm)
      subst none
      rfl
  | cons mark rest ih =>
      obtain ⟨c, marked⟩ := mark
      cases marked with
      | false =>
          have filled := @ih params (by simpa using h)
          simp only [List.cons_append, fillPlaceholders, filled]
      | true =>
          cases params with
          | nil => simp at h
          | cons v params =>
              have filled := @ih params (by simpa using h)
              simp only [List.cons_append, fillPlaceholders, filled, List.append_assoc]

/-- A text that is read from one state to another has one placeholder for each value, and is `shown`
with the values filled in. -/
structure Aligned (quoted : Bool) (cs : List Char) (params : List Value) (shown : List Char)
    (after : Bool) : Prop where
  state : quotedAfter quoted cs = after
  count : (markPlaceholders quoted cs).countP (·.2) = params.length
  filled : fillPlaceholders (markPlaceholders quoted cs) params = shown

namespace Aligned

theorem nil (quoted : Bool) : Aligned quoted [] [] [] quoted :=
  ⟨rfl, rfl, rfl⟩

theorem append {quoted middle after : Bool} {a b x y : List Char} {params more : List Value}
    (first : Aligned quoted a params x middle) (second : Aligned middle b more y after) :
    Aligned quoted (a ++ b) (params ++ more) (x ++ y) after := by
  obtain ⟨rfl, count, filled⟩ := first
  refine ⟨?_, ?_, ?_⟩
  · rw [quotedAfter_append, second.state]
  · rw [markPlaceholders_append, List.countP_append, List.length_append, count, second.count]
  · rw [markPlaceholders_append, fillPlaceholders_append count, filled, second.filled]

/-! ## Single characters -/

theorem delimiter (quoted : Bool) :
    Aligned quoted [delimiter] [] [SqlBuilder.delimiter] (!quoted) := by
  cases quoted <;> exact ⟨by decide, by decide, by decide⟩

/-- Any character but a delimiter and, outside quoted names, a question mark. -/
theorem char {quoted : Bool} {c : Char} (hd : c ≠ SqlBuilder.delimiter)
    (hq : c = '?' → quoted = true) : Aligned quoted [c] [] [c] quoted := by
  have unmarked : (c == '?' && !quoted) = false := by
    by_cases mark : c = '?'
    · simp [mark, hq mark]
    · simp [mark]
  refine ⟨?_, ?_, ?_⟩
  · simp [quotedAfter, hd]
  · simp [markPlaceholders, hd, unmarked]
  · simp [markPlaceholders, hd, unmarked, fillPlaceholders]

theorem placeholder (v : Value) : Aligned false ['?'] [v] v.debugLiteral.toList false := by
  refine ⟨rfl, rfl, ?_⟩
  show v.debugLiteral.toList ++ [] = v.debugLiteral.toList
  rw [List.append_nil]

/-! ## Texts without placeholders -/

theorem plain {quoted : Bool} {cs : List Char}
    (h : ∀ c ∈ cs, c ≠ SqlBuilder.delimiter ∧ (c = '?' → quoted = true)) :
    Aligned quoted cs [] cs quoted := by
  induction cs with
  | nil => exact nil quoted
  | cons c rest ih =>
      obtain ⟨hc, hr⟩ := List.forall_mem_cons.1 h
      exact (char hc.1 hc.2).append (ih hr)

theorem quotedChar (c : Char) :
    Aligned true (quotedChar c) [] (SqlBuilder.quotedChar c) true := by
  unfold SqlBuilder.quotedChar
  split
  · exact (delimiter true).append (delimiter false)
  · rename_i other
    split
    · exact nil true
    · exact char other fun _ => rfl

theorem quoteChars (name : List Char) :
    Aligned false (quoteChars name) [] (SqlBuilder.quoteChars name) false := by
  have inside : Aligned true (name.flatMap SqlBuilder.quotedChar) []
      (name.flatMap SqlBuilder.quotedChar) true := by
    induction name with
    | nil => exact nil true
    | cons c rest ih =>
        rw [List.flatMap_cons]
        exact (quotedChar c).append ih
  exact (delimiter false).append (inside.append (delimiter true))

end Aligned

/-! ## Written texts -/

/-- A character that neither opens a quoted name nor stands for a value. -/
def isUnmarked (c : Char) : Bool :=
  c != delimiter && c != '?'

theorem Aligned.unmarked {cs : List Char} (h : cs.all isUnmarked = true) :
    Aligned false cs [] cs false := by
  refine .plain fun c hc => ?_
  have hc := List.all_eq_true.1 h c hc
  simp only [isUnmarked, Bool.and_eq_true, bne_iff_ne] at hc
  exact ⟨hc.1, fun mark => absurd mark hc.2⟩

/-- An ingredient that is aligned itself. -/
def Ingredient.IsAligned : Ingredient → Prop
  | .fragment f =>
    ∀ sql params, f.expand = .ok (sql, params) →
      Aligned false sql.toList params f.display.toList false
  | .function name => name.toList.all isUnmarked = true
  | .operator o => o.toList.all isUnmarked = true
  | .query _ => True

theorem isUnmarked_of_isWordChar (c : Char) (h : isWordChar c = true) : isUnmarked c = true := by
  have quote : c ≠ delimiter := ne_of_class h (by decide)
  have mark : c ≠ '?' := ne_of_class h (by decide)
  simp [isUnmarked, quote, mark]

/-- What is written from aligned ingredients is aligned. -/
theorem Written.aligned {P : Ingredient → Prop} (h : ∀ i, P i → i.IsAligned) {sql shown : String}
    {params : List Value} (written : Written P sql params shown) :
    Aligned false sql.toList params shown.toList false := by
  induction written with
  | word text ht => exact .unmarked (all_of_class isUnmarked_of_isWordChar ht)
  | quoted name =>
      rw [quote, String.toList_ofList]
      exact .quoteChars name.toList
  | operator ho => exact .unmarked (h _ ho)
  | function hf => exact .unmarked (h _ hf)
  | placeholder v => exact .placeholder v
  | fragment hf expands => exact h _ hf _ _ expands
  | append first second ihf ihs =>
      rw [String.toList_append, String.toList_append]
      exact ihf.append ihs
  | @parens a x params inner ih =>
      simp only [String.toList_append]
      have opened : Aligned false "(".toList [] "(".toList false := .unmarked (by decide)
      have closed : Aligned false ")".toList [] ")".toList false := .unmarked (by decide)
      simpa using (opened.append ih).append closed

/-- Names have no placeholders, whatever characters they are made of. -/
theorem Aligned.name (name : String) :
    Aligned false (escape name).toList [] (escape name).toList false :=
  (Written.name (P := fun _ => False) name).aligned fun _ no => no.elim

/-! ## Fragments -/

/-- A question mark outside quotes leaves the state alone. -/
theorem bare_questionMark {quoted : Bool} {rest : List Char}
    (bare : ∀ mark ∈ markPlaceholders quoted ('?' :: rest), mark.1 = '?' → mark.2 = true) :
    quoted = false ∧ ∀ mark ∈ markPlaceholders false rest, mark.1 = '?' → mark.2 = true := by
  obtain ⟨first, others⟩ := List.forall_mem_cons.1 bare
  have unquoted : quoted = false := by simpa [delimiter] using first
  subst unquoted
  exact ⟨rfl, others⟩

/-- Expanding a fragment keeps its placeholders with their parameters, and the names that it puts in
bring none with them. -/
theorem Expansion.aligned {quoted : Bool} {cs out : List Char} {params left : List Value}
    (h : Expansion cs params out left) (taken : List.Forall₂ Slot.Takes (slots cs) params)
    (bare : ∀ mark ∈ markPlaceholders quoted cs, mark.1 = '?' → mark.2 = true) :
    Aligned quoted out left (Fragment.displayFrom cs params) (quotedAfter quoted cs) := by
  induction h generalizing quoted with
  | done params =>
      cases taken
      exact .nil quoted
  | name name tail ih =>
      -- a name is only put in where no quoted name is open, so its own quotes are read as quotes
      obtain ⟨rfl, first⟩ := bare_questionMark bare
      obtain ⟨-, second⟩ := bare_questionMark first
      rw [slots] at taken
      have others := ih (List.forall₂_cons.1 taken).2 second
      rw [Fragment.displayFrom]
      exact (Aligned.name name).append others
  | value param single tail ih =>
      obtain ⟨rfl, after⟩ := bare_questionMark bare
      rw [slots] at taken
      · have others := ih (List.forall₂_cons.1 taken).2 after
        rw [Fragment.displayFrom]
        · exact (Aligned.placeholder param).append others
        · exact single
      · exact single
  | unfilled single tail ih =>
      rw [slots] at taken
      · cases taken
      · exact single
  | @char c rest out params left other tail ih =>
      -- a delimiter of the fragment's own opens or closes a name, any other character is kept
      have pair : ∀ more, c = '?' → rest = '?' :: more → False := fun _ mark => (other mark).elim
      have first : Aligned quoted [c] [] [c] (if c = delimiter then !quoted else quoted) := by
        by_cases hc : c = delimiter
        · subst hc
          exact .delimiter quoted
        · rw [if_neg hc]
          exact .char hc fun mark => (other mark).elim
      rw [slots] at taken
      · have others := ih taken (List.forall_mem_cons.1 bare).2
        rw [Fragment.displayFrom]
        · exact first.append others
        · exact pair
        · exact other
      · exact pair
      · exact other

theorem Fragment.WellFormed.isAligned {fragment : Fragment} (h : fragment.WellFormed) :
    (Ingredient.fragment fragment).IsAligned := by
  intro sql params expands
  have aligned := (Fragment.expansion expands).aligned h.taken h.bare
  rw [quotedAfter_eq_count, h.closed] at aligned
  simpa [display] using aligned

/-! ## Queries -/

/-- A fragment that is well formed, or the name of a function without question marks and
delimiters. -/
def Ingredient.WellFormed : Ingredient → Prop
  | .fragment f => f.WellFormed
  | .function name => '?' ∉ name.toList ∧ delimiter ∉ name.toList
  | .operator _ => True
  | .query _ => True

theorem isUnmarked_of_isOperatorChar (c : Char) (h : isOperatorChar c = true) :
    isUnmarked c = true := by
  have quote : c ≠ delimiter := ne_of_class h (by decide)
  have mark : c ≠ '?' := ne_of_class h (by decide)
  simp [isUnmarked, quote, mark]

theorem Ingredient.Granted.isAligned {P : Ingredient → Prop} {i : Ingredient} (granted : i.Granted P)
    (h : i.WellFormed) : i.IsAligned := by
  cases i with
  | fragment f => exact Fragment.WellFormed.isAligned h
  | function name =>
      refine List.all_eq_true.2 fun c hc => ?_
      have mark : c ≠ '?' := fun same => h.1 (same ▸ hc)
      have quote : c ≠ delimiter := fun same => h.2 (same ▸ hc)
      simp [isUnmarked, mark, quote]
  | operator o =>
      cases granted with
      | builtIn b =>
          cases b with
          | operator allowed =>
              exact all_of_class isUnmarked_of_isOperatorChar (isOperatorChar_of_allowed allowed)
  | query select => trivial

/-- What steps add of their own accord is well formed. -/
theorem Ingredient.BuiltIn.wellFormed {i : Ingredient} (h : i.BuiltIn) : i.WellFormed := by
  cases h with
  | null => exact ⟨by decide, by decide, .nil⟩
  | range low high =>
      have closed : "? And ?".toList.count delimiter % 2 = 0 := by decide
      have bare : ∀ mark ∈ markPlaceholders false "? And ?".toList, mark.1 = '?' → mark.2 = true := by
        decide
      have found : slots "? And ?".toList = [.value, .value] := by decide
      have taken : List.Forall₂ Slot.Takes (slots "? And ?".toList) [low, high] := by
        rw [found]
        exact .cons trivial (.cons trivial .nil)
      exact ⟨closed, bare, taken⟩
  | star => exact ⟨by decide, by decide, .nil⟩
  | count => exact ⟨by decide, by decide⟩
  | operator allowed => trivial

/-- So a statement is well formed if everything is that its caller supplies. -/
theorem Program.wellFormed_of_supplies {program : Program}
    (h : program.Supplies Ingredient.WellFormed) :
    program.statement.Throughout Ingredient.WellFormed := by
  intro i hi
  refine (program.throughout h i hi).mono fun j granted => ?_
  cases granted with
  | builtIn b => exact b.wellFormed
  | fragment h => exact h
  | function h => exact h

/-- In the query of a statement that steps build, a reader finds one placeholder for each value, and
filling the values in gives the text of the statement with its values written out on the spot. -/
theorem Program.placeholders_aligned {program : Program} (complete : program.Complete)
    (wellFormed : program.statement.Throughout Ingredient.WellFormed) {query : Query}
    (built : program.statement.build = .ok query) :
    query.placeholderCount = query.params.length ∧ query.debugSql = program.statement.display := by
  have parts := (program.throughout complete).and wellFormed
  have written := Statement.written_of_build parts built
  have aligned := written.aligned fun i hi => hi.1.isAligned hi.2
  refine ⟨aligned.count, ?_⟩
  rw [Query.debugSql, aligned.filled, String.ofList_toList]

/-- Names and values with marks of all kinds, a list, a function, a fragment and a subquery. -/
theorem Program.placeholders_aligned_nested :
    let program := Program.select (.labelled "t" "x")
      [.columnAs (.call ⟨"Max", [.value (.text "n?")]⟩) "m",
        .filter (.isIn .and "a`?" [.value (.text "?`"), .value (.int 3)]),
        .filter (.inQuery .or "b" (.ofSteps (.named "u")
          [.filter (.compare .and "k" "LIKE" (.value (.text "`")))])),
        .filter (.raw .and { sql := "?? > `z` + ?", params := [.text "c", .bool true] })]
    let sql := "Select Max(`n?`) as `m` From `t` as `x` Where `a``?` In (?, ?)"
      ++ " Or `b` In (Select * From `u` Where `k` LIKE ?) And `c` > `z` + ?"
    ∃ query, program.statement.build = .ok query ∧ query.sql = sql
      ∧ query.placeholderCount = query.params.length
      ∧ query.debugSql = program.statement.display := by
  intro program sql
  have text : program.statement.build.toOption.map Query.sql = some sql := by decide +kernel
  have supplies (P : Ingredient → Prop) (hn : P (.function "Max"))
      (hf : P (.fragment { sql := "?? > `z` + ?", params := [.text "c", .bool true] })) :
      program.Supplies P := by
    intro i hi
    simp only [program, Program.supplied, Table.ingredients, SelectStep.supplied,
      ColumnExpr.ingredients, Call.ingredients, operandIngredients, Operand.ingredients,
      WhereStep.supplied, List.flatMap_cons, List.flatMap_nil, List.nil_append, List.append_nil,
      List.cons_append, List.mem_cons, List.not_mem_nil, or_false] at hi
    rcases hi with rfl | rfl | rfl
    · exact .function hn
    · exact .query _ _ (by simp [Program.supplied, Table.ingredients, SelectStep.supplied,
        WhereStep.supplied, Operand.ingredients])
    · exact .fragment hf
  have found : slots "?? > `z` + ?".toList = [.name, .value] := by decide
  have fragment : Fragment.WellFormed
      { sql := "?? > `z` + ?", params := [.text "c", .bool true] } :=
    ⟨by decide, by decide, found ▸ .cons ⟨"c", rfl⟩ (.cons trivial .nil)⟩
  obtain ⟨query, built, same⟩ := Statement.query_of_sql text
  refine ⟨query, built, same, ?_⟩
  refine Program.placeholders_aligned (supplies _ trivial trivial) ?_ built
  exact Program.wellFormed_of_supplies (supplies _ ⟨by decide, by decide⟩ fragment)

end SqlBuilder
