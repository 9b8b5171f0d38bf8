import SqlBuilder.Proofs.Grammar
import SqlBuilder.Proofs.Lexing

set_option autoImplicit false

/-! # Quoted names in a text

A delimiter opens a quoted name or closes the open one. Reading a text that way from a given state
leads to a state again, and texts can be read piece by piece. A quoted name leaves the state as it
was, whatever the name is, because delimiters inside it are doubled. So if no name is open after a
text in this reading, the reader that looks ahead leaves none open either. -/

namespace SqlBuilder

/-- Whether a name is open after a text, given whether one is open before it. -/
def quotedAfter (quoted : Bool) : List Char → Bool
  | [] => quoted
  | c :: rest => quotedAfter (if c = delimiter then !quoted else quoted) rest

theorem quotedAfter_append (quoted : Bool) (a b : List Char) :
    quotedAfter quoted (a ++ b) = quotedAfter (quotedAfter quoted a) b := by
  induction a generalizing quoted with
  | nil => rfl
  | cons c rest ih =>
      simp only [List.cons_append, quotedAfter]
      exact ih _

/-- Only delimiters change the state. -/
theorem quotedAfter_of_not_mem {cs : List Char} (h : delimiter ∉ cs) (quoted : Bool) :
    quotedAfter quoted cs = quoted := by
  induction cs with
  | nil => rfl
  | cons c rest ih =>
      obtain ⟨hc, hr⟩ := not_or.1 (mt List.mem_cons.2 h)
      have other : c ≠ delimiter := fun same => hc same.symm
      simp only [quotedAfter, if_neg other]
      exact ih hr

/-- The state is a matter of how many delimiters there are. -/
theorem quotedAfter_eq_count (quoted : Bool) (cs : List Char) :
    quotedAfter quoted cs = (quoted ^^ (cs.count delimiter % 2 == 1)) := by
  induction cs generalizing quoted with
  | nil => simp [quotedAfter]
  | cons c rest ih =>
      rw [quotedAfter, ih]
      by_cases hc : c = delimiter
      · -- one more delimiter turns the parity over, as it does the state
        subst hc
        rw [List.count_cons_self, if_pos rfl]
        have parity : ((rest.count delimiter + 1) % 2 == 1) = !(rest.count delimiter % 2 == 1) := by
          rcases Nat.mod_two_eq_zero_or_one (rest.count delimiter) with h | h <;>
            simp [h, Nat.add_mod]
        rw [parity]
        cases quoted <;> simp
      · rw [List.count_cons_of_ne hc, if_neg hc]

/-! ## Quoted names -/

/-- What stands between the delimiters of a name leaves it open. -/
theorem quotedAfter_doubled (text : List Char) : quotedAfter true (doubled text) = true := by
  induction text with
  | nil => rfl
  | cons c text ih =>
      rw [doubled, List.flatMap_cons, quotedAfter_append, ← doubled]
      by_cases closes : c = delimiter
      · rw [if_pos closes]
        exact ih
      · simp [quotedAfter, closes, ih]

theorem quotedAfter_quoteChars (name : List Char) :
    quotedAfter false (quoteChars name) = false := by
  rw [quoteChars, flatMap_quotedChar, quotedAfter, if_pos rfl, Bool.not_false, quotedAfter_append,
    quotedAfter_doubled]
  rfl

/-- A name with its delimiters leaves the state as it was. -/
theorem quotedAfter_name_append (text rest : List Char) :
    quotedAfter false (delimiter :: (doubled text ++ delimiter :: rest))
      = quotedAfter false rest := by
  rw [quotedAfter, if_pos rfl, Bool.not_false, quotedAfter_append, quotedAfter_doubled, quotedAfter,
    if_pos rfl, Bool.not_true]

theorem quotedAfter_unclosed (text : List Char) :
    quotedAfter false (delimiter :: doubled text) = true := by
  rw [quotedAfter, if_pos rfl, Bool.not_false, quotedAfter_doubled]

/-- A text that closes its names does not end in one. -/
theorem MadeOf.unclosed_not_mem {sql : List Char} {lexemes : List Lexeme} (h : MadeOf sql lexemes)
    (closed : quotedAfter false sql = false) (text : List Char) : .unclosed text ∉ lexemes := by
  induction h with
  | nil => exact List.not_mem_nil
  | bare other tail ih => simpa using ih (by simpa [quotedAfter, other] using closed)
  | name name single tail ih => simpa using ih (by rwa [quotedAfter_name_append] at closed)
  | unclosed name =>
      rw [quotedAfter_unclosed] at closed
      cases closed

/-! ## Classes of characters -/

/-- A character of a class is not one that is outside the class. -/
theorem ne_of_class {p : Char → Bool} {c d : Char} (hc : p c = true) (hd : p d = false) : c ≠ d := by
  rintro rfl
  rw [hd] at hc
  cases hc

/-- A text of one class is a text of every wider class. -/
theorem all_of_class {p q : Char → Bool} (wider : ∀ c, p c = true → q c = true) {cs : List Char}
    (h : cs.all p = true) : cs.all q = true :=
  List.all_eq_true.2 fun c hc => wider c (List.all_eq_true.1 h c hc)

/-! ## Operators -/

/-- The characters of operators. -/
def isOperatorChar (c : Char) : Bool :=
  c.isAlpha || c == ' ' || c == '=' || c == '<' || c == '>' || c == '!'

theorem isOperatorChar_of_toLower {c : Char} (h : isOperatorChar c.toLower = true) :
    isOperatorChar c = true := by
  by_cases upper : c.val ≥ 'A'.val ∧ c.val ≤ 'Z'.val
  · have alpha : c.isAlpha = true := by
      show (decide (c.val ≥ 'A'.val ∧ c.val ≤ 'Z'.val) || c.isLower) = true
      simp only [upper, and_self, decide_true, Bool.true_or]
    simp [isOperatorChar, alpha]
  · have same : c.toLower = c := dif_neg upper
    rwa [same] at h

/-- An operator on the list is made of the characters of operators, in whatever case its letters
are. -/
theorem isOperatorChar_of_allowed {operator : String} (h : isAllowedOperator operator = true) :
    operator.toList.all isOperatorChar = true := by
  obtain ⟨listed, hl, same⟩ := List.any_eq_true.1 h
  -- the list is finite, and only its letters may differ in case from the operator
  have onList :
      (allowedOperators.all fun o => (o.toList.map Char.toLower).all isOperatorChar) = true := by
    decide
  have lower := List.all_eq_true.1 onList listed hl
  rw [eq_of_beq same] at lower
  refine List.all_eq_true.2 fun c hc => isOperatorChar_of_toLower ?_
  exact List.all_eq_true.1 lower _ (List.mem_map_of_mem hc)

end SqlBuilder
