import SqlBuilder.Proofs.Json.Scalars

set_option autoImplicit false

/-! # Documents are read back from their texts

The text of a document has a form, which is found again by the grammar, and the form means the tree.
This holds of documents without doubles whose objects have their keys in order, as far as arrays and
objects lie in each other no deeper than is read. -/

namespace SqlBuilder.Json

/-! ## Documents -/

/-- A tree that is not a double. -/
def Tree.NotReal : Tree → Prop
  | .real _ => False
  | _ => True

mutual

/-- How deep arrays and objects lie in each other. -/
def Tree.depth : Tree → Nat
  | .array items => depthOfItems items + 1
  | .object members => depthOfMembers members + 1
  | _ => 0

/-- The depth of the deepest item of an array. -/
def depthOfItems : List Tree → Nat
  | [] => 0
  | item :: rest => max item.depth (depthOfItems rest)

/-- The depth of the deepest value of an object. -/
def depthOfMembers : List (String × Tree) → Nat
  | [] => 0
  | member :: rest => max member.2.depth (depthOfMembers rest)

end

theorem depthOfItems_le_iff {items : List Tree} {n : Nat} :
    depthOfItems items ≤ n ↔ ∀ item ∈ items, item.depth ≤ n := by
  induction items with
  | nil => simp [depthOfItems]
  | cons item rest ih => rw [depthOfItems, Nat.max_le, ih, List.forall_mem_cons]

mutual

/-- The form that a tree without doubles is written in. -/
def Tree.form : Tree → Form
  | .null => .null
  | .bool b => .bool b
  | .integer n => .number (numeralOf n.value)
  | .real _ => .null
  | .string s => .string (unitsOf s)
  | .array items => .array (formOfItems items)
  | .object members => .object (formOfMembers members)

/-- The forms of the items of an array. -/
def formOfItems : List Tree → List Form
  | [] => []
  | item :: rest => item.form :: formOfItems rest

/-- The forms of the members of an object. -/
def formOfMembers : List (String × Tree) → List (List StringUnit × Form)
  | [] => []
  | (key, value) :: rest => (unitsOf key, value.form) :: formOfMembers rest

end

theorem formOfItems_eq_map (items : List Tree) : formOfItems items = items.map Tree.form := by
  induction items with
  | nil => rfl
  | cons item rest ih => rw [formOfItems, ih, List.map_cons]

/-- How deep arrays and objects lie in each other. -/
def depth (document : Json) : Nat :=
  document.tree.depth

/-- A document without doubles. -/
def FloatFree (document : Json) : Prop :=
  document.tree.Throughout Tree.NotReal

/-- The form that a document without doubles is written in. -/
def form (document : Json) : Form :=
  document.tree.form

/-- An object with one member. -/
theorem tree_member (key : String) (value : Json) :
    (object [(key, value)]).tree = .object [(key, value.tree)] := rfl

theorem form_member (key : String) (value : Json) :
    (object [(key, value)]).form = .object [(unitsOf key, value.form)] := by
  simp only [form, tree_member, Tree.form, formOfMembers]

theorem form_array (items : List Json) : (array items).form = .array (items.map form) := by
  rw [form, array, Tree.form, formOfItems_eq_map, List.map_map]
  rfl

/-- Reading an object with one member leaves one level less for the value. -/
theorem exists_depth_member {key : String} {value : Json} {n : Nat}
    (shallow : (object [(key, value)]).depth ≤ n) : ∃ m, n = m + 1 ∧ value.depth ≤ m := by
  simp only [depth, tree_member, Tree.depth, depthOfMembers, Nat.max_zero] at shallow
  exact ⟨n - 1, by omega, by rw [depth]; omega⟩

/-- Reading an array leaves one level less for its items. -/
theorem exists_depth_array {items : List Json} {n : Nat} (shallow : (array items).depth ≤ n) :
    ∃ m, n = m + 1 ∧ ∀ item ∈ items, item.depth ≤ m := by
  simp only [depth, array, Tree.depth] at shallow
  have each : depthOfItems (items.map tree) ≤ n - 1 := by omega
  refine ⟨n - 1, by omega, fun item mem => ?_⟩
  exact depthOfItems_le_iff.1 each _ (List.mem_map_of_mem mem)

theorem floatFree_array {items : List Json} (free : ∀ item ∈ items, item.FloatFree) :
    (array items).FloatFree := by
  refine ⟨trivial, throughoutItems_iff.2 fun tree mem => ?_⟩
  obtain ⟨item, given, rfl⟩ := List.mem_map.1 mem
  exact free item given

theorem floatFree_member (key : String) {value : Json} (free : value.FloatFree) :
    (object [(key, value)]).FloatFree :=
  ⟨trivial, free, trivial⟩

/-! ## Forms are found again -/

theorem skipGap_cons {c : Char} (visible : isGap c = false) (rest : List Char) :
    skipGap (c :: rest) = c :: rest := by
  rw [skipGap, List.dropWhile_cons_of_neg (by simp [visible])]

/-- An integer begins with a digit or a sign. -/
theorem writeInt_begins (n : Int) :
    ∃ c rest, writeInt n = c :: rest ∧ (c.isDigit = true ∨ c = '-') := by
  by_cases negative : n < 0
  · exact ⟨'-', _, if_pos negative, .inr rfl⟩
  · obtain ⟨c, rest, digits, -⟩ := toDigits_begins n.natAbs
    refine ⟨c, rest, by rw [writeInt, if_neg negative, digits], .inl ?_⟩
    exact Nat.isDigit_of_mem_toDigits (by decide) (by decide) (digits ▸ List.mem_cons_self)

/-- The characters of a gap, and those that begin other values than numbers or close an array. -/
def otherBeginnings : List Char :=
  [' ', '\n', '\t', '\r', 'n', 't', 'f', '"', '[', '{', ']']

theorem ne_of_begins {c : Char} (begins : c.isDigit = true ∨ c = '-') :
    ∀ d ∈ otherBeginnings, c ≠ d := by
  rintro d mem rfl
  have neither : (otherBeginnings.all fun d => !(d.isDigit || d == '-')) = true := by decide
  have outside := List.all_eq_true.1 neither c mem
  rcases begins with digit | rfl
  · simp [digit] at outside
  · cases outside

theorem visible_of_begins {c : Char} (begins : c.isDigit = true ∨ c = '-') : isGap c = false := by
  have apart : ∀ d ∈ otherBeginnings, (c == d) = false :=
    fun d mem => beq_eq_false_iff_ne.2 (ne_of_begins begins d mem)
  rw [isGap, apart ' ' (by decide), apart '\n' (by decide), apart '\t' (by decide),
    apart '\r' (by decide)]
  rfl

theorem readForm_number {c : Char} (begins : c.isDigit = true ∨ c = '-') (steps : Nat)
    (rest : List Char) :
    readForm (steps + 1) (c :: rest)
      = (readNumeral (c :: rest)).map fun r => (.number r.1, r.2) := by
  rw [readForm, skipGap_cons (visible_of_begins begins)]
  split
  case h_7 => rfl
  -- the other values begin with other characters
  all_goals
    rename_i same
    cases same
    exact absurd rfl (ne_of_begins begins _ (by decide))

theorem readForm_items {c : Char} (visible : isGap c = false) (other : c ≠ ']') (steps : Nat)
    (rest : List Char) :
    readForm (steps + 1) ('[' :: c :: rest)
      = (readItems steps (c :: rest)).map fun r => (.array r.1, r.2) := by
  rw [readForm, skipGap_cons rfl]
  simp only [skipGap_cons visible]
  split
  · rename_i same
    cases same
    exact absurd rfl other
  · rfl

theorem readForm_members (steps : Nat) (rest : List Char) :
    readForm (steps + 1) ('{' :: '"' :: rest)
      = (readMembers steps ('"' :: rest)).map fun r => (.object r.1, r.2) := by
  have quote : skipGap ('"' :: rest) = '"' :: rest := skipGap_cons rfl rest
  rw [readForm, skipGap_cons rfl]
  simp only [quote]
  rfl

theorem readKey_writeString (key : String) (rest : List Char) :
    readKey (writeString key ++ ':' :: rest) = some (unitsOf key, rest) := by
  have colon : skipGap (':' :: rest) = ':' :: rest := skipGap_cons rfl rest
  rw [writeString, List.cons_append, List.append_assoc, List.singleton_append, readKey,
    skipGap_cons rfl]
  simp [readUnits_unitsOf, colon]

/-- Every value begins with a character that is no gap and closes nothing. -/
theorem write_begins {tree : Tree} (integral : tree.Throughout Tree.NotReal) :
    ∃ c rest, tree.write = c :: rest ∧ isGap c = false ∧ c ≠ ']' := by
  cases tree with
  | null => exact ⟨'n', _, rfl, rfl, by decide⟩
  | bool b =>
      cases b with
      | true => exact ⟨'t', _, rfl, rfl, by decide⟩
      | false => exact ⟨'f', _, rfl, rfl, by decide⟩
  | integer n =>
      obtain ⟨c, rest, text, begins⟩ := writeInt_begins n.value
      exact ⟨c, rest, text, visible_of_begins begins, ne_of_begins begins _ (by decide)⟩
  | real x => exact integral.elim
  | string s => exact ⟨'"', _, rfl, rfl, by decide⟩
  | array items => exact ⟨'[', _, by rw [Tree.write], rfl, by decide⟩
  | object members => exact ⟨'{', _, by rw [Tree.write], rfl, by decide⟩

theorem writeItems_begins {item : Tree} {rest : List Tree}
    (integral : ThroughoutItems Tree.NotReal (item :: rest)) :
    ∃ c text, writeItems (item :: rest) = c :: text ∧ isGap c = false ∧ c ≠ ']' := by
  obtain ⟨c, text, written, visible, other⟩ := write_begins integral.1
  cases rest with
  | nil => exact ⟨c, text, by rw [writeItems, written], visible, other⟩
  | cons next rest => exact ⟨c, _, by rw [writeItems, written, List.cons_append], visible, other⟩

theorem writeMembers_begins (member : String × Tree) (rest : List (String × Tree)) :
    ∃ text, writeMembers (member :: rest) = '"' :: text := by
  cases rest with
  | nil => exact ⟨_, by rw [writeMembers, writeString, List.cons_append]⟩
  | cons next rest => exact ⟨_, by rw [writeMembers, writeString, List.cons_append]⟩

theorem endsNumber_cons {c : Char} (separates : c = ',' ∨ c = ']' ∨ c = '}') (rest : List Char) :
    EndsNumber (c :: rest) := by
  intro d first
  obtain rfl : c = d := Option.some.inj first
  rcases separates with rfl | rfl | rfl <;> decide

mutual

theorem readForm_write : ∀ (tree : Tree) (steps : Nat) (rest : List Char),
    tree.Throughout Tree.NotReal → 2 * tree.write.length ≤ steps + 1 → EndsNumber rest →
      readForm steps (tree.write ++ rest) = some (tree.form, rest)
  | tree, 0, rest, integral, enough, _ => by
      -- no document has an empty text, so there is a step left
      obtain ⟨c, text, written, -⟩ := write_begins integral
      rw [written, List.length_cons] at enough
      omega
  | .null, steps + 1, rest, _, _, _ => by
      rw [Tree.write, Tree.form, readForm]
      rfl
  | .bool true, steps + 1, rest, _, _, _ => by
      rw [Tree.write, Tree.form, readForm]
      rfl
  | .bool false, steps + 1, rest, _, _, _ => by
      rw [Tree.write, Tree.form, readForm]
      rfl
  | .integer n, steps + 1, rest, _, _, ends => by
      obtain ⟨c, text, written, begins⟩ := writeInt_begins n.value
      have number := readNumeral_writeInt n.value ends
      rw [written, List.cons_append] at number
      rw [Tree.write, Tree.form, written, List.cons_append, readForm_number begins, number]
      rfl
  | .real x, _, _, integral, _, _ => integral.elim
  | .string s, steps + 1, rest, _, _, _ => by
      rw [Tree.write, Tree.form, writeString, List.cons_append, List.append_assoc, List.singleton_append,
        readForm, skipGap_cons rfl]
      simp only [readUnits_unitsOf]
      rfl
  | .array [], steps + 1, rest, _, _, _ => by
      rw [Tree.write, Tree.form, writeItems, formOfItems]
      rfl
  | .array (item :: items), steps + 1, rest, integral, enough, _ => by
      obtain ⟨c, text, written, visible, other⟩ := writeItems_begins integral.2
      have inner := readItems_write (item :: items) steps rest (List.cons_ne_nil item items)
        integral.2 (by simp only [Tree.write, List.length_cons, List.length_append] at enough; omega)
      rw [written, List.cons_append] at inner
      rw [Tree.write, Tree.form, written, List.cons_append, List.append_assoc, List.singleton_append,
        List.cons_append, readForm_items visible other, inner]
      rfl
  | .object [], steps + 1, rest, _, _, _ => by
      rw [Tree.write, Tree.form, writeMembers, formOfMembers]
      rfl
  | .object (member :: members), steps + 1, rest, integral, enough, _ => by
      obtain ⟨text, written⟩ := writeMembers_begins member members
      have inner := readMembers_write (member :: members) steps rest (List.cons_ne_nil _ _)
        integral.2 (by simp only [Tree.write, List.length_cons, List.length_append] at enough; omega)
      rw [written, List.cons_append] at inner
      rw [Tree.write, Tree.form, written, List.cons_append, List.append_assoc, List.singleton_append,
        List.cons_append, readForm_members, inner]
      rfl

theorem readItems_write : ∀ (items : List Tree) (steps : Nat) (rest : List Char),
    items ≠ [] → ThroughoutItems Tree.NotReal items → 2 * (writeItems items).length ≤ steps →
      readItems steps (writeItems items ++ ']' :: rest) = some (formOfItems items, rest)
  | [], _, _, filled, _, _ => absurd rfl filled
  | item :: rest, 0, _, _, integral, enough => by
      obtain ⟨c, text, written, -⟩ := writeItems_begins integral
      rw [written, List.length_cons] at enough
      omega
  | [item], steps + 1, rest, _, integral, enough => by
      -- what follows a number must end it, which `]` does
      have ends : EndsNumber (']' :: rest) := endsNumber_cons (.inr (.inl rfl)) rest
      have value := readForm_write item steps (']' :: rest) integral.1
        (by simpa only [writeItems] using enough) ends
      have close : skipGap (']' :: rest) = ']' :: rest := skipGap_cons rfl rest
      rw [writeItems, readItems, value]
      simp [close, formOfItems]
  | item :: next :: items, steps + 1, rest, _, integral, enough => by
      simp only [writeItems, List.length_append, List.length_cons] at enough
      have ends := endsNumber_cons (.inl rfl) (writeItems (next :: items) ++ ']' :: rest)
      have value := readForm_write item steps _ integral.1 (by omega) ends
      have others := readItems_write (next :: items) steps rest (List.cons_ne_nil next items)
        integral.2 (by omega)
      have comma : skipGap (',' :: (writeItems (next :: items) ++ ']' :: rest))
          = ',' :: (writeItems (next :: items) ++ ']' :: rest) := skipGap_cons rfl _
      rw [writeItems, List.append_assoc, List.cons_append, readItems, value]
      simp [comma, others, formOfItems]

theorem readMembers_write : ∀ (members : List (String × Tree)) (steps : Nat) (rest : List Char),
    members ≠ [] → ThroughoutMembers Tree.NotReal members →
      2 * (writeMembers members).length ≤ steps →
      readMembers steps (writeMembers members ++ '}' :: rest) = some (formOfMembers members, rest)
  | [], _, _, filled, _, _ => absurd rfl filled
  | member :: rest, 0, _, _, _, enough => by
      obtain ⟨text, written⟩ := writeMembers_begins member rest
      rw [written, List.length_cons] at enough
      omega
  | [(key, value)], steps + 1, rest, _, integral, enough => by
      simp only [writeMembers, List.length_append, List.length_cons] at enough
      have ends : EndsNumber ('}' :: rest) := endsNumber_cons (.inr (.inr rfl)) rest
      have first := readForm_write value steps ('}' :: rest) integral.1 (by omega) ends
      have close : skipGap ('}' :: rest) = '}' :: rest := skipGap_cons rfl rest
      rw [writeMembers, List.append_assoc, List.cons_append, readMembers, readKey_writeString]
      simp [first, close, formOfMembers]
  | (key, value) :: next :: members, steps + 1, rest, _, integral, enough => by
      simp only [writeMembers, List.length_append, List.length_cons] at enough
      have ends := endsNumber_cons (.inl rfl) (writeMembers (next :: members) ++ '}' :: rest)
      have first := readForm_write value steps _ integral.1 (by omega) ends
      have others := readMembers_write (next :: members) steps rest (List.cons_ne_nil next members)
        integral.2 (by omega)
      have comma : skipGap (',' :: (writeMembers (next :: members) ++ '}' :: rest))
          = ',' :: (writeMembers (next :: members) ++ '}' :: rest) := skipGap_cons rfl _
      rw [writeMembers, List.append_assoc, List.cons_append, List.append_assoc, List.cons_append,
        readMembers, readKey_writeString]
      simp [first, comma, others, formOfMembers]

end

theorem formOfText_text {document : Json} (free : document.FloatFree) :
    Form.ofText? document.text.toList = some document.form := by
  have enough : 2 * document.tree.write.length ≤ 2 * document.tree.write.length + 2 + 1 := by omega
  have read := readForm_write document.tree _ [] free enough nofun
  rw [List.append_nil] at read
  rw [text, String.toList_ofList, Form.ofText?, read]
  rfl

/-! ## Forms mean the trees -/

mutual

theorem meaning_form : ∀ (tree : Tree) (n : Nat), tree.Throughout Tree.NotReal →
    tree.Throughout Tree.KeysAscending → tree.depth ≤ n → meaning? n tree.form = some tree
  | .null, n, _, _, _ => by rw [Tree.form, meaning?]
  | .bool b, n, _, _, _ => by rw [Tree.form, meaning?]
  | .integer k, n, _, _, _ => by rw [Tree.form, meaning?, meaning_numeralOf]
  | .real x, _, integral, _, _ => integral.elim
  | .string s, n, _, _, _ => by
      rw [Tree.form, meaning?, stringOfUnits_unitsOf]
      rfl
  | .array items, 0, _, _, shallow => by
      rw [Tree.depth] at shallow
      omega
  | .array items, n + 1, integral, ordered, shallow => by
      rw [Tree.depth] at shallow
      rw [Tree.form, meaning?, meaning_formOfItems items n integral.2 ordered.2 (by omega)]
      rfl
  | .object members, 0, _, _, shallow => by
      rw [Tree.depth] at shallow
      omega
  | .object members, n + 1, integral, ordered, shallow => by
      rw [Tree.depth] at shallow
      rw [Tree.form, meaning?, meaning_formOfMembers members n integral.2 ordered.2 (by omega),
        Option.map_some, sortMembers_ascending ordered.1]

theorem meaning_formOfItems : ∀ (items : List Tree) (n : Nat), ThroughoutItems Tree.NotReal items →
    ThroughoutItems Tree.KeysAscending items → depthOfItems items ≤ n →
      meaningOfItems? n (formOfItems items) = some items
  | [], n, _, _, _ => by rw [formOfItems, meaningOfItems?]
  | item :: rest, n, integral, ordered, shallow => by
      rw [depthOfItems] at shallow
      rw [formOfItems, meaningOfItems?, meaning_form item n integral.1 ordered.1 (by omega),
        meaning_formOfItems rest n integral.2 ordered.2 (by omega)]
      rfl

theorem meaning_formOfMembers : ∀ (members : List (String × Tree)) (n : Nat),
    ThroughoutMembers Tree.NotReal members → ThroughoutMembers Tree.KeysAscending members →
      depthOfMembers members ≤ n → meaningOfMembers? n (formOfMembers members) = some members
  | [], n, _, _, _ => by rw [formOfMembers, meaningOfMembers?]
  | (key, value) :: rest, n, integral, ordered, shallow => by
      simp only [depthOfMembers] at shallow
      rw [formOfMembers, meaningOfMembers?, stringOfUnits_unitsOf,
        meaning_form value n integral.1 ordered.1 (by omega),
        meaning_formOfMembers rest n integral.2 ordered.2 (by omega)]
      rfl

end

/-- A document without doubles is what its form spells: its own proof puts its keys in order. -/
theorem ofForm?_form {document : Json} {n : Nat} (free : document.FloatFree)
    (shallow : document.depth ≤ n) : ofForm? n document.form = some document :=
  ofForm?_eq_some (meaning_form document.tree n free document.ordered shallow)

end SqlBuilder.Json
