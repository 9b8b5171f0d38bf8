import SqlBuilder.Proofs.Quoting
import SqlBuilder.Proofs.Reachable
import SqlBuilder.Proofs.Render.Written
import SqlBuilder.Proofs.Slots

set_option autoImplicit false

/-! # Nothing escapes from its quotes

What a database reads outside quoted names is program text. If a caller supplies neither fragments
nor functions, that text is made of harmless characters only and its parentheses are balanced,
whatever names, operators and values the caller chooses. -/

namespace SqlBuilder

/-! ## What is outside quoted names -/

/-- The characters outside names, or nothing if a name is left open. -/
def bareOf : List Lexeme → Option (List Char)
  | [] => some []
  | .bare c :: rest => (bareOf rest).map (c :: ·)
  | .name _ :: rest => bareOf rest
  | .unclosed _ :: _ => none

/-- Reads a text and keeps the characters outside its quoted names. -/
def readBare (sql : List Char) : Option (List Char) :=
  bareOf (lex sql)

/-- The characters outside quoted names if every delimiter opens or closes one. -/
def bareChars (quoted : Bool) : List Char → List Char
  | [] => []
  | c :: rest =>
    if c = delimiter then bareChars (!quoted) rest
    else if quoted then bareChars quoted rest
    else c :: bareChars quoted rest

theorem bareChars_append (quoted : Bool) (a b : List Char) :
    bareChars quoted (a ++ b) = bareChars quoted a ++ bareChars (quotedAfter quoted a) b := by
  induction a generalizing quoted with
  | nil => rfl
  | cons c rest ih =>
      simp only [List.cons_append, bareChars, quotedAfter]
      by_cases hc : c = delimiter
      · rw [if_pos hc, if_pos hc, if_pos hc, ih]
      · cases quoted <;> simp [hc, ih]

/-- Nothing of a name is outside it: a doubled delimiter closes the name and opens it again, with no
character in between. -/
theorem bareChars_doubled (text : List Char) : bareChars true (doubled text) = [] := by
  induction text with
  | nil => rfl
  | cons c text ih =>
      rw [doubled, List.flatMap_cons, ← doubled]
      by_cases closes : c = delimiter
      · rw [if_pos closes]
        exact ih
      · simp [bareChars, closes, ih]

theorem bareChars_name_append (text rest : List Char) :
    bareChars false (delimiter :: (doubled text ++ delimiter :: rest)) = bareChars false rest := by
  rw [bareChars, if_pos rfl, Bool.not_false, bareChars_append, bareChars_doubled,
    quotedAfter_doubled, List.nil_append, bareChars, if_pos rfl, Bool.not_true]

/-- Every delimiter may as well be read as opening or closing a name: the characters outside names
are the same, and so is whether a name is left open. -/
theorem MadeOf.bareOf_eq {sql : List Char} {lexemes : List Lexeme} (h : MadeOf sql lexemes) :
    bareOf lexemes = if quotedAfter false sql then none else some (bareChars false sql) := by
  induction h with
  | nil => rfl
  | bare other tail ih =>
      simp only [bareOf, quotedAfter, bareChars, if_neg other, ih]
      split <;> rfl
  | name text single tail ih => rw [bareOf, ih, quotedAfter_name_append, bareChars_name_append]
  | unclosed text => rw [bareOf, quotedAfter_unclosed, if_pos rfl]

theorem readBare_eq (sql : List Char) :
    readBare sql = if quotedAfter false sql then none else some (bareChars false sql) :=
  (madeOf_lex sql).bareOf_eq

example : readBare "a `b``;` c".toList = some "a  c".toList := by decide

/-- How many parentheses are open after a text, or nothing if one is closed that was not opened. -/
def depthAfter : Nat → List Char → Option Nat
  | depth, [] => some depth
  | depth, '(' :: rest => depthAfter (depth + 1) rest
  | depth + 1, ')' :: rest => depthAfter depth rest
  | 0, ')' :: _ => none
  | depth, _ :: rest => depthAfter depth rest

theorem depthAfter_append (depth : Nat) (a b : List Char) :
    depthAfter depth (a ++ b) = (depthAfter depth a).bind (depthAfter · b) := by
  induction depth, a using depthAfter.induct with
  | case1 depth => rfl
  | case2 depth rest ih => simpa [depthAfter] using ih
  | case3 depth rest ih => simpa [depthAfter] using ih
  | case4 rest => rfl
  | case5 depth c rest opens closes closesNone ih =>
      rw [List.cons_append, depthAfter, depthAfter, ih]
      all_goals assumption

/-! ## Safe texts -/

/-- The characters that may stand outside quoted names. -/
def isBareChar (c : Char) : Bool :=
  c.isAlphanum || [' ', '(', ')', ',', '.', '*', '?', '=', '<', '>', '!'].contains c

/-- A text that closes the names and parentheses that it opens and has no other than harmless
characters outside quoted names. -/
structure Safe (cs : List Char) : Prop where
  closed : quotedAfter false cs = false
  allowed : ∀ c ∈ bareChars false cs, isBareChar c = true
  balanced : ∀ depth, depthAfter depth (bareChars false cs) = some depth

/-- A harmless character other than a parenthesis. -/
def isPlainChar (c : Char) : Bool :=
  isBareChar c && c != '(' && c != ')'

theorem ne_delimiter_of_isPlainChar {c : Char} (h : isPlainChar c = true) : c ≠ delimiter :=
  ne_of_class h (by decide)

theorem bareChars_of_plain {cs : List Char} (h : cs.all isPlainChar = true) :
    bareChars false cs = cs := by
  induction cs with
  | nil => rfl
  | cons c rest ih =>
      rw [List.all_cons, Bool.and_eq_true] at h
      obtain ⟨hc, hr⟩ := h
      simp [bareChars, ne_delimiter_of_isPlainChar hc, ih hr]

theorem depthAfter_of_plain {cs : List Char} (h : cs.all isPlainChar = true) (depth : Nat) :
    depthAfter depth cs = some depth := by
  induction cs with
  | nil => rfl
  | cons c rest ih =>
      rw [List.all_cons, Bool.and_eq_true] at h
      obtain ⟨hc, hr⟩ := h
      simp only [isPlainChar, Bool.and_eq_true, bne_iff_ne] at hc
      rw [depthAfter]
      · exact ih hr
      · exact hc.1.2
      · exact fun _ _ => hc.2
      · exact fun _ => hc.2

namespace Safe

theorem append {a b : List Char} (first : Safe a) (second : Safe b) : Safe (a ++ b) := by
  have parts : bareChars false (a ++ b) = bareChars false a ++ bareChars false b := by
    rw [bareChars_append, first.closed]
  refine ⟨?_, ?_, fun depth => ?_⟩
  · rw [quotedAfter_append, first.closed, second.closed]
  · rw [parts]
    exact List.forall_mem_append.2 ⟨first.allowed, second.allowed⟩
  · rw [parts, depthAfter_append, first.balanced]
    exact second.balanced depth

theorem parens {a : List Char} (inner : Safe a) : Safe ('(' :: (a ++ [')'])) := by
  have parts : bareChars false ('(' :: (a ++ [')'])) = '(' :: (bareChars false a ++ [')']) := by
    rw [bareChars, if_neg (by decide), if_neg (by decide), bareChars_append, inner.closed]
    rfl
  refine ⟨?_, ?_, fun depth => ?_⟩
  · rw [quotedAfter, if_neg (by decide), quotedAfter_append, inner.closed]
    rfl
  · rw [parts]
    refine List.forall_mem_cons.2 ⟨by decide, List.forall_mem_append.2 ⟨inner.allowed, ?_⟩⟩
    exact List.forall_mem_singleton.2 (by decide)
  · rw [parts, depthAfter, depthAfter_append, inner.balanced]
    rfl

theorem plain {cs : List Char} (h : cs.all isPlainChar = true) : Safe cs := by
  have unquoted : delimiter ∉ cs := fun hd =>
    ne_delimiter_of_isPlainChar (List.all_eq_true.1 h _ hd) rfl
  refine ⟨quotedAfter_of_not_mem unquoted false, ?_, fun depth => ?_⟩
  · rw [bareChars_of_plain h]
    intro c hc
    have hc := List.all_eq_true.1 h c hc
    simp only [isPlainChar, Bool.and_eq_true] at hc
    exact hc.1.1
  · rw [bareChars_of_plain h]
    exact depthAfter_of_plain h depth

/-- Nothing of a quoted name is outside it. -/
theorem quoteChars (name : List Char) : Safe (quoteChars name) := by
  have nothing : bareChars false (SqlBuilder.quoteChars name) = [] := by
    rw [SqlBuilder.quoteChars, flatMap_quotedChar]
    exact bareChars_name_append (withoutNul name) []
  refine ⟨quotedAfter_quoteChars name, ?_, fun depth => ?_⟩
  · rw [nothing]
    exact List.forall_mem_nil _
  · rw [nothing]
    rfl

end Safe

/-! ## Written texts -/

/-- An ingredient that is safe itself. -/
def Ingredient.IsSafe : Ingredient → Prop
  | .fragment f => ∀ sql params, f.expand = .ok (sql, params) → Safe sql.toList
  | .function name => name.toList.all isPlainChar = true
  | .operator o => o.toList.all isPlainChar = true
  | .query _ => True

theorem isPlainChar_of_isWordChar (c : Char) (h : isWordChar c = true) : isPlainChar c = true := by
  have opens : c ≠ '(' := ne_of_class h (by decide)
  have closes : c ≠ ')' := ne_of_class h (by decide)
  have bare : isBareChar c = true := by
    simp only [isWordChar, Bool.or_eq_true, beq_iff_eq] at h
    rcases h with ((((alphanum | rfl) | rfl) | rfl) | rfl) | rfl
    · simp [isBareChar, alphanum]
    all_goals decide
  simp [isPlainChar, bare, opens, closes]

theorem isPlainChar_of_isOperatorChar (c : Char) (h : isOperatorChar c = true) :
    isPlainChar c = true := by
  have opens : c ≠ '(' := ne_of_class h (by decide)
  have closes : c ≠ ')' := ne_of_class h (by decide)
  have bare : isBareChar c = true := by
    simp only [isOperatorChar, Bool.or_eq_true, beq_iff_eq] at h
    rcases h with ((((alpha | rfl) | rfl) | rfl) | rfl) | rfl
    · simp [isBareChar, Char.isAlphanum, alpha]
    all_goals decide
  simp [isPlainChar, bare, opens, closes]

/-- What is written from safe ingredients is safe. -/
theorem Written.safe {P : Ingredient → Prop} (h : ∀ i, P i → i.IsSafe) {sql shown : String}
    {params : List Value} (written : Written P sql params shown) : Safe sql.toList := by
  induction written with
  | word text ht => exact .plain (all_of_class isPlainChar_of_isWordChar ht)
  | quoted name =>
      rw [quote, String.toList_ofList]
      exact .quoteChars name.toList
  | operator ho => exact .plain (h _ ho)
  | function hf => exact .plain (h _ hf)
  | placeholder v => exact .plain (by decide)
  | fragment hf expands => exact h _ hf _ _ expands
  | append first second ihf ihs =>
      rw [String.toList_append]
      exact ihf.append ihs
  | parens inner ih =>
      simp only [String.toList_append]
      exact ih.parens

/-- What steps add of their own accord is safe. -/
theorem Ingredient.BuiltIn.isSafe {i : Ingredient} (h : i.BuiltIn) : i.IsSafe := by
  cases h with
  | null =>
      intro sql params expands
      cases expand_nullFragment.symm.trans expands
      exact .plain (by decide)
  | range low high =>
      intro sql params expands
      cases (expand_rangeFragment low high).symm.trans expands
      exact .plain (by decide)
  | star =>
      intro sql params expands
      cases expand_star.symm.trans expands
      exact .plain (by decide)
  | count => exact (by decide : "Count".toList.all isPlainChar = true)
  | operator allowed =>
      exact all_of_class isPlainChar_of_isOperatorChar (isOperatorChar_of_allowed allowed)

/-- Outside quoted names the query of a statement that steps build, without fragments and functions
of the caller's own, has harmless characters only, and its parentheses are balanced. -/
theorem Program.sql_safe {program : Program} (own : program.Supplies fun _ => False) {query : Query}
    (built : program.statement.build = .ok query) :
    ∃ bare, readBare query.sql.toList = some bare
      ∧ (∀ c ∈ bare, isBareChar c = true) ∧ depthAfter 0 bare = some 0 := by
  have written := Statement.written_of_build (program.throughout own) built
  have safe : Safe query.sql.toList := by
    refine written.safe fun i granted => ?_
    cases granted with
    | builtIn h => exact h.isSafe
    | fragment no => exact no.elim
    | function no => exact no.elim
  refine ⟨bareChars false query.sql.toList, ?_, safe.allowed, safe.balanced 0⟩
  rw [readBare_eq, safe.closed]
  rfl

/-- Names and values that try to end the statement and to start another one. -/
theorem Program.sql_safe_hostile :
    let program := Program.delete (.labelled "t`; Drop" "a\x00'")
      [.filter (.compare .and "c\\ -- (" "<>" (.value (.text "'; --"))),
        .filter (.hasRow .or (.ofSteps (.named "u") []))]
    let sql := "Delete From `t``; Drop` as `a'` Where `c\\ -- (` <> ?"
      ++ " Or Exists (Select * From `u`)"
    ∃ query bare, program.statement.build = .ok query ∧ query.sql = sql
      ∧ readBare query.sql.toList = some bare
      ∧ (∀ c ∈ bare, isBareChar c = true) ∧ depthAfter 0 bare = some 0 := by
  intro program sql
  have text : program.statement.build.toOption.map Query.sql = some sql := by decide +kernel
  have own : program.Supplies fun _ => False := by
    intro i hi
    simp only [program, Program.supplied, Table.ingredients, DeleteStep.supplied,
      WhereStep.supplied, Operand.ingredients, List.flatMap_cons, List.flatMap_nil,
      List.nil_append, List.append_nil, List.mem_singleton] at hi
    subst hi
    exact .query _ _ (by simp [Program.supplied, Table.ingredients])
  obtain ⟨query, built, same⟩ := Statement.query_of_sql text
  obtain ⟨bare, read, safe⟩ := Program.sql_safe own built
  exact ⟨query, bare, built, same, read, safe⟩

end SqlBuilder
