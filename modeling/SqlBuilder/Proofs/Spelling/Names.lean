import SqlBuilder.Proofs.Quoting

set_option autoImplicit false

/-! # Where a written name ends

Columns may be called anything, but what is written for a column can be told apart from what follows
it: outside quotes it has no blank, except in the ` as ` before an alias. So it ends at the first
unquoted blank that begins no ` as `. Likewise an operator ends where no operator has a character. -/

namespace SqlBuilder

/-! ## Names -/

/-- A text up to its first unquoted blank that begins no mark of an alias, and what is left, given
whether a quoted name is open. -/
def nameEnd : Bool → List Char → List Char × List Char
  | _, [] => ([], [])
  | true, c :: rest =>
    let parts := nameEnd (c != delimiter) rest
    (c :: parts.1, parts.2)
  | false, ' ' :: 'a' :: 's' :: ' ' :: rest =>
    let parts := nameEnd false rest
    (Identifier.aliasMark ++ parts.1, parts.2)
  | false, c :: rest =>
    if c = ' ' then
      ([], c :: rest)
    else
      let parts := nameEnd (c == delimiter) rest
      (c :: parts.1, parts.2)

/-- A text does not end a name: if it follows an open or closed quote, it is followed by an open or
closed one, and the name goes on. -/
def Continues (before after : Bool) (text : List Char) : Prop :=
  ∀ rest, nameEnd before (text ++ rest)
    = (text ++ (nameEnd after rest).1, (nameEnd after rest).2)

namespace Continues

theorem nil (quoted : Bool) : Continues quoted quoted [] :=
  fun _ => rfl

theorem append {before middle after : Bool} {a b : List Char} (first : Continues before middle a)
    (second : Continues middle after b) : Continues before after (a ++ b) := by
  intro rest
  rw [List.append_assoc, first, second, List.append_assoc]

theorem inside (c : Char) : Continues true (c != delimiter) [c] := by
  intro rest
  rfl

theorem outside {c : Char} (visible : c ≠ ' ') : Continues false (c == delimiter) [c] := by
  intro rest
  rw [List.singleton_append, nameEnd, if_neg visible]
  · rfl
  · exact fun _ blank => absurd blank visible

theorem aliasMark : Continues false false Identifier.aliasMark :=
  fun _ => rfl

/-- What is written for a character inside a quoted name leaves the quote open. -/
theorem quotedChar (c : Char) : Continues true true (quotedChar c) := by
  unfold SqlBuilder.quotedChar
  by_cases closes : c = delimiter
  · rw [if_pos closes]
    exact (inside delimiter).append (outside (by decide))
  · rw [if_neg closes]
    by_cases gone : c = '\x00'
    · rw [if_pos gone]
      exact nil true
    · rw [if_neg gone]
      have open_still := inside c
      rwa [bne_iff_ne.2 closes] at open_still

theorem quotedChars (name : List Char) : Continues true true (name.flatMap SqlBuilder.quotedChar) := by
  induction name with
  | nil => exact nil true
  | cons c rest ih => exact (quotedChar c).append ih

theorem quote (name : String) : Continues false false (quote name).toList := by
  rw [SqlBuilder.quote, String.toList_ofList, quoteChars]
  have opened : Continues false true [delimiter] := outside (by decide)
  have closed : Continues true false [delimiter] := inside delimiter
  exact opened.append ((quotedChars name.toList).append closed)

theorem intercalate {separator : String} (separates : Continues false false separator.toList)
    {parts : List String} (each : ∀ part ∈ parts, Continues false false part.toList) :
    Continues false false (separator.intercalate parts).toList := by
  induction parts with
  | nil => exact nil false
  | cons part rest ih =>
      obtain ⟨first, others⟩ := List.forall_mem_cons.1 each
      cases rest with
      | nil => simpa using first
      | cons second rest =>
          rw [String.intercalate_cons_cons, String.toList_append, String.toList_append]
          exact (first.append separates).append (ih others)

theorem identifier (i : Identifier) : Continues false false i.toSql.toList := by
  have dot : Continues false false ".".toList := outside (by decide)
  refine intercalate dot fun part mem => ?_
  obtain ⟨p, -, rfl⟩ := List.mem_map.1 mem
  cases p with
  | name text => exact quote text
  | wildcard => exact outside (by decide)

/-- Nothing that is written for a name ends it. -/
theorem name (name : String) : Continues false false (escape name).toList := by
  have mark : Continues false false " as ".toList := aliasMark
  refine intercalate mark fun part mem => ?_
  obtain ⟨i, -, rfl⟩ := List.mem_map.1 mem
  exact identifier i

end Continues

/-- A blank that begins no mark of an alias ends a name. -/
theorem nameEnd_blank {rest : List Char} (other : ¬['a', 's', ' '] <+: rest) :
    nameEnd false (' ' :: rest) = ([], ' ' :: rest) := by
  rw [nameEnd, if_pos rfl]
  rintro after - rfl
  exact other ⟨after, rfl⟩

/-- Two texts that begin with a name and a blank have the same name and go on in the same way. -/
theorem name_ends {a b : String} {t u : List Char} (ht : ¬['a', 's', ' '] <+: t)
    (hu : ¬['a', 's', ' '] <+: u)
    (same : (escape a).toList ++ ' ' :: t = (escape b).toList ++ ' ' :: u) :
    escape a = escape b ∧ t = u := by
  have first := Continues.name a (' ' :: t)
  have second := Continues.name b (' ' :: u)
  rw [nameEnd_blank ht, List.append_nil] at first
  rw [nameEnd_blank hu, List.append_nil, ← same, first] at second
  obtain ⟨names, rests⟩ := Prod.mk.inj second
  exact ⟨String.toList_inj.1 names, (List.cons.inj rests).2⟩

/-! ## The beginning of a name -/

/-- A text that begins with a quote, as everything does that is written for a name. -/
def Quoted (text : String) : Prop :=
  ∃ rest, text.toList = delimiter :: rest

theorem Quoted.intercalate (separator : String) {first : String} (quoted : Quoted first)
    (rest : List String) : Quoted (separator.intercalate (first :: rest)) := by
  obtain ⟨after, begins⟩ := quoted
  cases rest with
  | nil => exact ⟨after, by rw [String.intercalate_singleton, begins]⟩
  | cons second rest =>
      refine ⟨after ++ separator.toList ++ (separator.intercalate (second :: rest)).toList, ?_⟩
      rw [String.intercalate_cons_cons, String.toList_append, String.toList_append, begins]
      simp only [List.cons_append]

/-- A dotted name begins with a name, even if it ends in a wildcard. -/
theorem Quoted.identifier (s : List Char) : Quoted (Identifier.ofChars s).toSql := by
  have names (piece : List Char) (more : List IdentifierPart) :
      ∃ text rest, Identifier.names piece ++ more = .name text :: rest := by
    rw [Identifier.names]
    cases pieces : Text.pieces '.' piece with
    | nil => exact absurd pieces (Text.pieces_ne_nil '.' piece)
    | cons first rest => exact ⟨_, _, rfl⟩
  have first : ∃ text rest, (Identifier.ofChars s).parts = .name text :: rest := by
    unfold Identifier.ofChars
    split
    · exact names _ _
    · simpa using names s []
  obtain ⟨text, rest, parts⟩ := first
  rw [Identifier.toSql, parts, List.map_cons]
  refine intercalate "." ⟨text.toList.flatMap quotedChar ++ [delimiter], ?_⟩ _
  rw [IdentifierPart.toSql, quote, String.toList_ofList, quoteChars]

theorem Quoted.chain (cuts : Nat) (s : List Char) :
    ∃ first rest, Identifier.chainWithin cuts s = first :: rest ∧ Quoted first.toSql := by
  induction cuts generalizing s with
  | zero => exact ⟨_, [], rfl, identifier s⟩
  | succ cuts ih =>
      rw [Identifier.chainWithin]
      cases Text.cut? Identifier.aliasMark s with
      | none => exact ⟨_, [], rfl, identifier s⟩
      | some halves =>
          obtain ⟨first, rest, chain, quoted⟩ := ih (Text.trim halves.1)
          refine ⟨first, rest ++ Identifier.chainWithin cuts (Text.trim halves.2), ?_, quoted⟩
          simp only [chain, List.cons_append]

theorem Quoted.name (name : String) : Quoted (escape name) := by
  obtain ⟨first, rest, chain, quoted⟩ := Quoted.chain name.toList.length name.toList
  rw [escape, Identifier.chain, chain, List.map_cons]
  exact intercalate " as " quoted _

/-! ## Operators -/

/-- Two texts that begin with characters of one class, and go on with one outside of it, have the same
beginning and go on in the same way. -/
theorem class_ends {p : Char → Bool} {a b : List Char} (ha : a.all p = true) (hb : b.all p = true)
    {c d : Char} (hc : p c = false) (hd : p d = false) {t u : List Char}
    (same : a ++ c :: t = b ++ d :: u) : a = b ∧ c :: t = d :: u := by
  induction a generalizing b with
  | nil =>
      cases b with
      | nil => exact ⟨rfl, same⟩
      | cons x b =>
          obtain ⟨rfl, -⟩ := List.cons.inj same
          simp [hc] at hb
  | cons x a ih =>
      rw [List.all_cons, Bool.and_eq_true] at ha
      cases b with
      | nil =>
          obtain ⟨rfl, -⟩ := List.cons.inj same
          simp [hd] at ha
      | cons y b =>
          rw [List.all_cons, Bool.and_eq_true] at hb
          obtain ⟨rfl, tails⟩ := List.cons.inj same
          obtain ⟨rfl, rests⟩ := ih ha.2 hb.2 tails
          exact ⟨rfl, rests⟩

/-- The texts of operands begin with one of these characters, which no operator has. -/
def opensOperand (c : Char) : Bool :=
  c == '?' || c == '('

/-- Two texts that begin with an operator, a blank and an operand have the same operator and go on in
the same way. -/
theorem operator_ends {a b : String} (ha : isAllowedOperator a = true)
    (hb : isAllowedOperator b = true) {c d : Char} (hc : opensOperand c = true)
    (hd : opensOperand d = true) {t u : List Char}
    (same : a.toList ++ ' ' :: c :: t = b.toList ++ ' ' :: d :: u) :
    a = b ∧ c :: t = d :: u := by
  have outside {c : Char} (opens : opensOperand c = true) : isOperatorChar c = false := by
    rw [opensOperand, Bool.or_eq_true] at opens
    rcases opens with h | h <;> rw [eq_of_beq h] <;> decide
  have spaced {operator : String} (allowed : isAllowedOperator operator = true) :
      (operator.toList ++ [' ']).all isOperatorChar = true := by
    rw [List.all_append, isOperatorChar_of_allowed allowed]
    decide
  rw [List.append_cons, List.append_cons b.toList] at same
  obtain ⟨operators, operands⟩ := class_ends (spaced ha) (spaced hb) (outside hc) (outside hd) same
  exact ⟨String.toList_inj.1 (List.append_cancel_right operators), operands⟩

/-- What follows an operator and a blank is told apart from a text that none of the listed operators
begin with, up to the case of letters. -/
theorem operator_apart {operator : String} (allowed : isAllowedOperator operator = true)
    (word after : List Char)
    (apart : ∀ listed ∈ allowedOperators,
      ¬listed.toList ++ ' ' :: after.map Char.toLower <+: word.map Char.toLower
        ∧ ¬word.map Char.toLower <+: listed.toList ++ ' ' :: after.map Char.toLower)
    (text : List Char) : ¬word <+: operator.toList ++ ' ' :: after ++ text := by
  rintro ⟨rest, same⟩
  obtain ⟨listed, mem, spelling⟩ := List.any_eq_true.1 allowed
  have onList : ∀ o ∈ allowedOperators, o.toList.map Char.toLower = o.toList := by decide
  have lowered : listed.toList = operator.toList.map Char.toLower := by
    rw [← eq_of_beq spelling, onList listed mem]
  have words : word.map Char.toLower
      <+: (listed.toList ++ ' ' :: after.map Char.toLower) ++ text.map Char.toLower := by
    refine ⟨rest.map Char.toLower, ?_⟩
    rw [← List.map_append, same, lowered]
    simp
  rcases List.prefix_or_prefix_of_prefix words (List.prefix_append _ _) with short | long
  · exact (apart listed mem).2 short
  · exact (apart listed mem).1 long

/-- No operator is the mark of an alias. -/
theorem not_alias_of_allowed {operator : String} (allowed : isAllowedOperator operator = true)
    (rest : List Char) : ¬['a', 's', ' '] <+: operator.toList ++ ' ' :: rest := by
  have apart := operator_apart allowed ['a', 's', ' '] [] (by decide) rest
  rwa [List.append_assoc] at apart

end SqlBuilder
