import Mathlib.Algebra.GroupWithZero.Nat
import SqlBuilder.Proofs.Lexing
import SqlBuilder.Proofs.Placeholders

set_option autoImplicit false

/-! # Placeholders stand outside names

The scan for placeholders does not look ahead and knows only whether a name is open. In the middle
of a doubled delimiter it has closed a name that the reader of names has not, but no character
stands there. So in every text, also in one whose last name stays open, a place is marked if and
only if a question mark stands there outside the names that the rules of quoting find. What is
marked in texts that close their names adds up, even where the names at the ends of two texts run
into one. -/

namespace SqlBuilder

/-! ## Places in a text -/

/-- In a text of these pieces, the character at a place is a piece of its own and not part of a
name. -/
def OutsideNames (lexemes : List Lexeme) (i : Nat) : Prop :=
  ∃ before c after, lexemes = before ++ .bare c :: after
    ∧ (before.flatMap Lexeme.source).length = i

theorem Lexeme.length_marks (lexeme : Lexeme) : lexeme.marks.length = lexeme.source.length := by
  rw [← map_fst_marks, List.length_map]

theorem Lexeme.source_length_pos (lexeme : Lexeme) : 0 < lexeme.source.length := by
  cases lexeme <;> exact Nat.succ_pos _

/-- At the places of the first piece. -/
theorem outsideNames_first {lexeme : Lexeme} {rest : List Lexeme} {i : Nat}
    (inside : i < lexeme.source.length) :
    OutsideNames (lexeme :: rest) i ↔ ∃ c, lexeme = .bare c := by
  constructor
  · rintro ⟨before, c, after, pieces, place⟩
    cases before with
    | nil => exact ⟨c, (List.cons.inj pieces).1⟩
    | cons first before =>
        -- all of the first piece would come before the place
        obtain ⟨rfl, -⟩ := List.cons.inj pieces
        rw [List.flatMap_cons, List.length_append] at place
        omega
  · rintro ⟨c, rfl⟩
    have start : i = 0 := Nat.lt_one_iff.1 inside
    exact ⟨[], c, rest, rfl, start.symm⟩

/-- At the places after the first piece. -/
theorem outsideNames_later (lexeme : Lexeme) (rest : List Lexeme) (i : Nat) :
    OutsideNames (lexeme :: rest) (lexeme.source.length + i) ↔ OutsideNames rest i := by
  constructor
  · rintro ⟨before, c, after, pieces, place⟩
    cases before with
    | nil =>
        have beyond := lexeme.source_length_pos
        rw [List.flatMap_nil, List.length_nil] at place
        omega
    | cons first before =>
        obtain ⟨rfl, later⟩ := List.cons.inj pieces
        rw [List.flatMap_cons, List.length_append] at place
        exact ⟨before, c, after, later, Nat.add_left_cancel place⟩
  · rintro ⟨before, c, after, rfl, rfl⟩
    exact ⟨lexeme :: before, c, after, rfl, by rw [List.flatMap_cons, List.length_append]⟩

/-- In a piece that is a name nothing is marked, and a character of its own is marked if it is a
question mark. -/
theorem Lexeme.marked_iff {lexeme : Lexeme} {i : Nat} {c : Char} {marked : Bool}
    (found : lexeme.marks[i]? = some (c, marked)) :
    marked = true ↔ c = '?' ∧ ∃ d, lexeme = .bare d := by
  cases lexeme with
  | bare d =>
      obtain ⟨rfl, rfl⟩ : c = d ∧ marked = (d == '?') := by
        simpa [marks] using List.mem_of_getElem? found
      simp
  | name text | unclosed text =>
      obtain ⟨d, _, same⟩ := List.mem_map.1 (List.mem_of_getElem? found)
      have unmarked : marked = false := (Prod.mk.inj same).2.symm
      simp [unmarked]

theorem marked_iff {lexemes : List Lexeme} {i : Nat} {c : Char} {marked : Bool}
    (found : (lexemes.flatMap Lexeme.marks)[i]? = some (c, marked)) :
    marked = true ↔ c = '?' ∧ OutsideNames lexemes i := by
  induction lexemes generalizing i with
  | nil => cases found
  | cons lexeme rest ih =>
      rw [List.flatMap_cons] at found
      by_cases inside : i < lexeme.source.length
      · rw [List.getElem?_append_left (by rwa [lexeme.length_marks])] at found
        rw [outsideNames_first inside]
        exact lexeme.marked_iff found
      · obtain ⟨k, rfl⟩ := Nat.exists_eq_add_of_le (Nat.le_of_not_lt inside)
        rw [← lexeme.length_marks, List.getElem?_append_right (Nat.le_add_right _ _),
          Nat.add_sub_cancel_left] at found
        rw [outsideNames_later]
        exact ih found

/-- The scan leaves the character at a place as it is, and marks it if it is a question mark outside
names. -/
theorem getElem?_markPlaceholders {sql : List Char} {i : Nat} {c : Char} {marked : Bool} :
    (markPlaceholders false sql)[i]? = some (c, marked)
      ↔ sql[i]? = some c ∧ (marked = true ↔ c = '?' ∧ OutsideNames (lex sql) i) := by
  have kept : ((markPlaceholders false sql)[i]?).map (·.1) = sql[i]? := by
    rw [← List.getElem?_map, map_fst_markPlaceholders]
  constructor
  · intro found
    rw [found] at kept
    rw [markPlaceholders_eq_marks] at found
    exact ⟨kept.symm, marked_iff found⟩
  · rintro ⟨character, marks⟩
    rw [character] at kept
    obtain ⟨⟨d, other⟩, found, rfl⟩ := Option.map_eq_some_iff.1 kept
    have same : other = marked := by
      rw [Bool.eq_iff_iff, marks]
      exact marked_iff (by rwa [← markPlaceholders_eq_marks])
    rw [found, same]

/-! ## Texts one after the other -/

/-- After a text with an even number of delimiters the scan is where it was. -/
theorem markPlaceholders_flatMap {α : Type} {text : α → List Char} {as : List α}
    (closed : ∀ a ∈ as, (text a).count delimiter % 2 = 0) :
    markPlaceholders false (as.flatMap text)
      = as.flatMap fun a => markPlaceholders false (text a) := by
  induction as with
  | nil => rfl
  | cons a rest ih =>
      obtain ⟨first, others⟩ := List.forall_mem_cons.1 closed
      have outside : quotedAfter false (text a) = false := by
        rw [quotedAfter_eq_count, first]
        rfl
      rw [List.flatMap_cons, List.flatMap_cons, markPlaceholders_append, outside, ih others]

theorem Query.placeholderCount_join {queries : List Query}
    (closed : ∀ query ∈ queries, query.sql.toList.count delimiter % 2 = 0) (params : List Value) :
    (Query.mk (String.join (queries.map Query.sql)) params).placeholderCount
      = (queries.map Query.placeholderCount).sum := by
  have text : (String.join (queries.map Query.sql)).toList
      = queries.flatMap fun query => query.sql.toList := by
    rw [String.toList_join, List.flatMap_map]
  rw [placeholderCount, text, markPlaceholders_flatMap closed, List.countP_flatMap]
  rfl

/-- The scan for placeholders agrees with the rules of quoting on every text. There is one way to
read a text by the rules. The scan keeps all characters in their order, and marks those that are
question marks outside names. So texts that each have an even number of delimiters have as many
placeholders together as one by one. -/
theorem Query.placeholders_outside_names :
    (∀ sql : String,
      (∀ lexemes, MadeOf sql.toList lexemes ↔ lexemes = lex sql.toList)
        ∧ (markPlaceholders false sql.toList).map (·.1) = sql.toList
        ∧ ∀ i c marked, (markPlaceholders false sql.toList)[i]? = some (c, marked)
            ↔ sql.toList[i]? = some c
              ∧ (marked = true ↔ c = '?' ∧ OutsideNames (lex sql.toList) i))
      ∧ ∀ (queries : List Query) (params : List Value),
          (∀ query ∈ queries, query.sql.toList.count delimiter % 2 = 0) →
          (Query.mk (String.join (queries.map Query.sql)) params).placeholderCount
            = (queries.map Query.placeholderCount).sum := by
  refine ⟨fun sql => ⟨fun lexemes => madeOf_iff, ?_, fun i c marked => ?_⟩, ?_⟩
  · exact map_fst_markPlaceholders false sql.toList
  · exact getElem?_markPlaceholders
  · intro queries params closed
    exact placeholderCount_join closed params

/-- The names at the ends of two texts run into one with question marks and delimiters in it, and a
text has an empty name and then one that begins with a delimiter and is not closed. -/
theorem Query.placeholders_outside_names_in_runs :
    let queries : List Query := [⟨"? = `a?`", [.int 1]⟩, ⟨"`b?``` Or ?", []⟩]
    let joined := String.join (queries.map Query.sql)
    let opened := "``? ```?"
    (∀ query ∈ queries, query.sql.toList.count delimiter % 2 = 0)
      ∧ .name "a?`b?`".toList ∈ lex joined.toList
      ∧ (Query.mk joined []).placeholderCount = 2
      ∧ lex opened.toList = [.name [], .bare '?', .bare ' ', .unclosed "`?".toList]
      ∧ OutsideNames (lex opened.toList) 2
      ∧ ¬ OutsideNames (lex opened.toList) 7 := by
  intro queries joined opened
  have closed : ∀ query ∈ queries, query.sql.toList.count delimiter % 2 = 0 := by decide
  obtain ⟨-, -, marks⟩ := placeholders_outside_names.1 opened
  refine ⟨closed, by decide, ?_, by decide, ?_, ?_⟩
  · rw [placeholders_outside_names.2 queries [] closed]
    decide
  · exact (((marks 2 '?' true).1 (by decide)).2.1 rfl).2
  · intro outside
    have marked := ((marks 7 '?' false).1 (by decide)).2.2 ⟨rfl, outside⟩
    cases marked

end SqlBuilder
