import SqlBuilder.Json.Reader
import SqlBuilder.Json.Writer

set_option autoImplicit false

/-! # Integers and strings in JSON texts

An integer is read back from its decimal digits, and a string from its text between quotes. -/

namespace SqlBuilder.Json

/-! ## Integers

The digits stand alone up to a character that is part of no number, and as they spell a number of 64
bits, all of them are taken in. -/

/-- The value of a decimal digit. -/
def digitValue (c : Char) : Nat :=
  c.toNat - 0x30

/-- The numeral that is written for an integer. -/
def numeralOf (n : Int) : Numeral :=
  ⟨decide (n < 0), (Nat.toDigits 10 n.natAbs).map digitValue, [], none⟩

/-- What may follow an integer: nothing that is part of a number. -/
def EndsNumber (rest : List Char) : Prop :=
  ∀ c ∈ rest.head?, c.isDigit = false ∧ c ≠ '.' ∧ c ≠ 'e' ∧ c ≠ 'E'

/-! ### Digits are read back -/

theorem takeDigits_append {digits rest : List Char} (all : ∀ c ∈ digits, c.isDigit = true)
    (ends : EndsNumber rest) : takeDigits (digits ++ rest) = (digits.map digitValue, rest) := by
  induction digits with
  | nil =>
      cases rest with
      | nil => rfl
      | cons c rest => simp [takeDigits, digit?, (ends c rfl).1]
  | cons c digits ih =>
      obtain ⟨first, others⟩ := List.forall_mem_cons.1 all
      simp [takeDigits, digit?, first, ih others, digitValue]

/-- Only the number zero is written with a leading zero. -/
theorem toDigits_begins (n : Nat) :
    ∃ c rest, Nat.toDigits 10 n = c :: rest ∧ (digitValue c = 0 → rest = []) := by
  induction n using Nat.strongRecOn with
  | ind n ih =>
      by_cases small : n < 10
      · exact ⟨n.digitChar, [], Nat.toDigits_of_lt_base small, fun _ => rfl⟩
      · obtain ⟨c, rest, digits, alone⟩ := ih (n / 10) (by omega)
        refine ⟨c, rest ++ [(n % 10).digitChar], ?_, fun zero => ?_⟩
        · rw [Nat.toDigits_of_base_le (by decide) (by omega), digits, List.cons_append]
        · -- a leading zero would be the whole of the shorter number
          have value := Nat.ofDigitChars_toDigits (b := 10) (n := n / 10) (by decide) (by decide)
          rw [digits, alone zero] at value
          have : n / 10 = 0 := by
            rw [← value]
            simpa [Nat.ofDigitChars, digitValue] using zero
          omega

theorem readWhole_toDigits (n : Nat) {rest : List Char} (ends : EndsNumber rest) :
    readWhole (Nat.toDigits 10 n ++ rest) = some ((Nat.toDigits 10 n).map digitValue, rest) := by
  have all : ∀ c ∈ Nat.toDigits 10 n, c.isDigit = true :=
    fun c mem => Nat.isDigit_of_mem_toDigits (by decide) (by decide) mem
  obtain ⟨c, more, digits, alone⟩ := toDigits_begins n
  have taken : readDigits (Nat.toDigits 10 n ++ rest)
      = some ((Nat.toDigits 10 n).map digitValue, rest) := by
    rw [readDigits, takeDigits_append all ends, digits, List.map_cons]
  rw [readWhole, taken, digits, List.map_cons]
  cases more with
  | nil => simp
  | cons d more =>
      have leading : digitValue c ≠ 0 := fun zero => nomatch alone zero
      simp [leading]

theorem readUnsigned_toDigits (negative : Bool) (n : Nat) {rest : List Char}
    (ends : EndsNumber rest) :
    readUnsigned negative (Nat.toDigits 10 n ++ rest)
      = some (⟨negative, (Nat.toDigits 10 n).map digitValue, [], none⟩, rest) := by
  have fraction : readFraction rest = some ([], rest) := by
    rw [readFraction]
    rintro after rfl
    exact (ends '.' rfl).2.1 rfl
  have exponent : readExponent rest = some (none, rest) := by
    rw [readExponent]
    · rintro after rfl
      exact (ends 'e' rfl).2.2.1 rfl
    · rintro after rfl
      exact (ends 'E' rfl).2.2.2 rfl
  simp [readUnsigned, readWhole_toDigits n ends, fraction, exponent]

theorem readNumeral_writeInt (n : Int) {rest : List Char} (ends : EndsNumber rest) :
    readNumeral (writeInt n ++ rest) = some (numeralOf n, rest) := by
  by_cases negative : n < 0
  · rw [writeInt, if_pos negative, List.cons_append, readNumeral, readUnsigned_toDigits _ _ ends,
      numeralOf, decide_eq_true negative]
  · rw [writeInt, if_neg negative, readNumeral, readUnsigned_toDigits _ _ ends, numeralOf,
      decide_eq_false negative]
    -- a digit is not a sign
    intro after same
    obtain ⟨c, more, digits, -⟩ := toDigits_begins n.natAbs
    have digit : c.isDigit = true :=
      Nat.isDigit_of_mem_toDigits (by decide) (by decide) (digits ▸ List.mem_cons_self)
    rw [digits] at same
    obtain ⟨rfl, -⟩ := List.cons.inj same
    cases digit

/-! ### Digits spell what they were written for -/

theorem accumulate_eq (digits : List Nat) (n : Nat)
    (fits : digits.foldl (fun n d => n * 10 + d) n < 0x10000000000000000) :
    accumulate n digits = (digits.foldl (fun n d => n * 10 + d) n, digits.length, 0) := by
  induction digits generalizing n with
  | nil => rfl
  | cons d rest ih =>
      have grows (digits : List Nat) (m : Nat) : m ≤ digits.foldl (fun n d => n * 10 + d) m := by
        induction digits generalizing m with
        | nil => exact Nat.le_refl m
        | cons d rest ih =>
            have step := ih (m * 10 + d)
            rw [List.foldl_cons]
            omega
      rw [List.foldl_cons] at fits
      have below := Nat.lt_of_le_of_lt (grows rest (n * 10 + d)) fits
      rw [accumulate, if_pos below, ih _ fits, List.foldl_cons, List.length_cons]

theorem foldl_toDigits (n : Nat) :
    ((Nat.toDigits 10 n).map digitValue).foldl (fun n d => n * 10 + d) 0 = n := by
  have spelled := Nat.ofDigitChars_toDigits (b := 10) (n := n) (by decide) (by decide)
  rw [Nat.ofDigitChars] at spelled
  rw [List.foldl_map]
  have zero : '0'.toNat = 0x30 := rfl
  simpa only [Nat.mul_comm, zero, digitValue] using spelled

theorem accumulate_toDigits {n : Nat} (fits : n < 0x10000000000000000) :
    accumulate 0 ((Nat.toDigits 10 n).map digitValue)
      = (n, (Nat.toDigits 10 n).length, 0) := by
  rw [accumulate_eq _ _ (by rwa [foldl_toDigits]), foldl_toDigits, List.length_map]

theorem meaning_numeralOf (n : WordInteger) :
    (numeralOf n.value).meaning? = some (.integer n) := by
  have lower := n.lower
  have upper := n.upper
  have taken := accumulate_toDigits (n := n.value.natAbs) (by omega)
  have fits : WordInteger.ofInt? n.value = some n := dif_pos ⟨lower, upper⟩
  by_cases negative : n.value < 0
  · have nonzero : decide (n.value.natAbs = 0) = false := decide_eq_false (by omega)
    have bounded : decide (0x8000000000000000 < n.value.natAbs) = false :=
      decide_eq_false (by omega)
    have value : -(n.value.natAbs : Int) = n.value := by omega
    rw [numeralOf, Numeral.meaning?]
    simp only [taken, Numeral.isWhole, decide_eq_true negative, List.isEmpty_nil,
      Option.isNone_none, Bool.and_true, decide_true, if_true, nonzero, bounded, Bool.or_false,
      Bool.false_eq_true, if_false, value, fits]
    rfl
  · have value : (n.value.natAbs : Int) = n.value := by omega
    rw [numeralOf, Numeral.meaning?]
    simp only [taken, Numeral.isWhole, decide_eq_false negative, List.isEmpty_nil,
      Option.isNone_none, Bool.and_true, decide_true, if_true, Bool.false_eq_true, if_false, value,
      fits]
    rfl

/-! ## Strings

Every character is written as one element of the form, a character or a code, and the element spells
the character again. -/

/-- The control characters that have no letter of their own are written by their code. -/
def isCoded (c : Char) : Bool :=
  c.toNat < 0x20 && c != '\x08' && c != '\t' && c != '\n' && c != '\x0c' && c != '\r'

/-- The element of the form that is written for a character. -/
def unitOf (c : Char) : StringUnit :=
  if isCoded c then .code c.toNat else .char c

/-- The elements of the form that are written for a string. -/
def unitsOf (s : String) : List StringUnit :=
  s.toList.map unitOf

/-! ### Elements are read back -/

/-- The code of a control character is read back from its hexadecimal digits. -/
theorem readHex_code (n : Fin 0x20) : ∃ a b c d,
    Text.hexDigits 4 n = [a, b, c, d] ∧ Text.readHex? [a, b, c, d] = some n.val := by
  refine ⟨_, _, _, _, rfl, ?_⟩
  revert n
  decide

/-- What is written after a backslash by a letter of its own. -/
def letteredChars : List (Char × Char) :=
  [('"', '"'), ('\\', '\\'), ('\x08', 'b'), ('\t', 't'), ('\n', 'n'), ('\x0c', 'f'), ('\r', 'r')]

theorem readUnits_lettered {c letter : Char} (escaped : (c, letter) ∈ letteredChars)
    (rest : List Char) :
    readUnits ('\\' :: letter :: rest) = (readUnits rest).map fun r => (.char c :: r.1, r.2) := by
  have meaning : ∀ pair ∈ letteredChars, escapeLetter? pair.2 = some pair.1 ∧ pair.2 ≠ 'u' := by
    decide
  obtain ⟨stands, other⟩ := meaning (c, letter) escaped
  rw [readUnits]
  · cases readUnits rest with
    | none => simp [stands]
    | some r => simp [stands]
  · rintro - - - - - rfl
    exact absurd rfl other

theorem readUnits_plain {c : Char} (visible : ¬c.toNat < 0x20) (quote : c ≠ '"') (slash : c ≠ '\\')
    (rest : List Char) :
    readUnits (c :: rest) = (readUnits rest).map fun r => (.char c :: r.1, r.2) := by
  rw [readUnits]
  · cases readUnits rest with
    | none => simp [visible, slash]
    | some r => simp [visible, slash]
  · exact quote
  · exact fun _ _ _ _ _ same _ => slash same
  · exact fun _ _ same _ => slash same

theorem readUnits_coded {c : Char} (control : c.toNat < 0x20) (rest : List Char) :
    readUnits ('\\' :: 'u' :: (Text.hexDigits 4 c.toNat ++ rest))
      = (readUnits rest).map fun r => (.code c.toNat :: r.1, r.2) := by
  obtain ⟨w, x, y, z, digits, code⟩ := readHex_code ⟨c.toNat, control⟩
  rw [digits, List.cons_append, List.cons_append, List.cons_append, List.cons_append,
    List.nil_append, readUnits, code]
  cases readUnits rest with
  | none => rfl
  | some r => rfl

theorem readUnits_escapedChar (c : Char) (rest : List Char) :
    readUnits (escapedChar c ++ rest)
      = (readUnits rest).map fun r => (unitOf c :: r.1, r.2) := by
  by_cases lettered : c ∈ letteredChars.map (·.1)
  · obtain ⟨⟨c, letter⟩, mem, rfl⟩ := List.mem_map.1 lettered
    have written : ∀ pair ∈ letteredChars,
        escapedChar pair.1 = ['\\', pair.2] ∧ unitOf pair.1 = .char pair.1 := by
      simp [letteredChars, escapedChar, unitOf, isCoded]
    obtain ⟨text, unit⟩ := written (c, letter) mem
    rw [text, unit]
    exact readUnits_lettered mem rest
  · simp only [letteredChars, List.map_cons, List.map_nil, List.mem_cons, List.not_mem_nil, or_false,
      not_or] at lettered
    by_cases control : c.toNat < 0x20
    · have text : escapedChar c = '\\' :: 'u' :: Text.hexDigits 4 c.toNat := by
        simp [escapedChar, lettered, control]
      have unit : unitOf c = .code c.toNat := by
        simp [unitOf, isCoded, lettered, control]
      rw [text, unit]
      exact readUnits_coded control rest
    · have text : escapedChar c = [c] := by
        simp [escapedChar, lettered, control]
      have unit : unitOf c = .char c := by
        simp [unitOf, isCoded, control]
      rw [text, unit]
      exact readUnits_plain control lettered.1 lettered.2.1 rest

theorem readUnits_unitsOf (s : String) (rest : List Char) :
    readUnits (s.toList.flatMap escapedChar ++ '"' :: rest) = some (unitsOf s, rest) := by
  have all (cs : List Char) : readUnits (cs.flatMap escapedChar ++ '"' :: rest)
      = some (cs.map unitOf, rest) := by
    induction cs with
    | nil => rfl
    | cons c cs ih =>
        rw [List.flatMap_cons, List.append_assoc, readUnits_escapedChar, ih]
        rfl
  exact all s.toList

/-! ### Elements spell what they were written for -/

theorem meaningOfUnits_unitOf (c : Char) (units : List StringUnit) :
    meaningOfUnits (unitOf c :: units) = (meaningOfUnits units).map (c :: ·) := by
  by_cases coded : isCoded c = true
  · have control : c.toNat < 0x20 := by
      simp only [isCoded, Bool.and_eq_true, decide_eq_true_eq] at coded
      omega
    have first : ¬(0xD800 ≤ c.toNat ∧ c.toNat < 0xDC00) := by omega
    have second : ¬(0xDC00 ≤ c.toNat ∧ c.toNat < 0xE000) := by omega
    have either : ¬(0xD800 ≤ c.toNat ∧ c.toNat < 0xE000) := by omega
    rw [unitOf, if_pos coded]
    -- a code is looked at together with the element after it
    cases units with
    | nil => simp [meaningOfUnits, either]
    | cons unit rest =>
        cases unit with
        | char d => simp [meaningOfUnits, either]
        | code b => rw [meaningOfUnits, if_neg first, if_neg second, Char.ofNat_toNat]
  · rw [unitOf, if_neg coded, meaningOfUnits]

theorem stringOfUnits_unitsOf (s : String) : stringOfUnits? (unitsOf s) = some s := by
  have all (cs : List Char) : meaningOfUnits (cs.map unitOf) = some cs := by
    induction cs with
    | nil => rfl
    | cons c cs ih =>
        rw [List.map_cons, meaningOfUnits_unitOf, ih]
        rfl
  rw [stringOfUnits?, unitsOf, all, Option.map_some, String.ofList_toList]

end SqlBuilder.Json
