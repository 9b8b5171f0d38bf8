import SqlBuilder.Proofs.Json.RoundTrip
import SqlBuilder.Value

set_option autoImplicit false

/-! # Values that share a document

Values of several kinds have the same document, and one of them is *normal*: the one that a reader takes
the document for. `norm` gives the normal value with the document of a value. -/

namespace SqlBuilder

namespace Json.Tree

/-- An integer from 0 to 255. -/
def isByte : Tree → Bool
  | .integer n => 0 ≤ n.value && n.value ≤ 255
  | _ => false

/-- The byte that an integer from 0 to 255 is. -/
def byte : Tree → UInt8
  | .integer n => UInt8.ofNat n.value.toNat
  | _ => 0

end Json.Tree

namespace Value

/-- An integer as a signed word if it fits, otherwise as an unsigned word. -/
def normInteger (n : WordInteger) : Value :=
  if n.value ≤ Int64.maxValue.toInt then .int (Int64.ofInt n.value)
  else .uint (UInt64.ofNat n.value.toNat)

/-- The normal value of a document, by its shape. -/
def normDocument (document : Json) : Value :=
  match document.tree with
  | .null => .null
  | .bool b => .bool b
  | .integer n => normInteger n
  | .real _ => .json document
  | .string s => .text s
  | .array items =>
    if items.all Json.Tree.isByte then .bytes (items.map Json.Tree.byte) else .json document
  | .object _ => .json document

theorem normDocument_integer (n : WordInteger) : normDocument (.integer n) = normInteger n := rfl

theorem normDocument_array {document : Json} {items : List Json.Tree}
    (shape : document.tree = .array items) :
    normDocument document
      = if items.all Json.Tree.isByte then .bytes (items.map Json.Tree.byte)
        else .json document := by
  simp only [normDocument, shape]

/-- The normal value with the same document. -/
def norm : Value → Value
  | null => null
  | bool b => bool b
  | int n => int n
  | uint n => if n.toNat ≤ Int64.maxValue.toInt then int (Int64.ofInt n.toNat) else uint n
  | float x => float x
  | text s => text s
  | bytes content => bytes content
  | date d => text d.text
  | dateTime t => text t.isoText
  | timestamp t => text (t.isoText ++ "Z")
  | uuid u => text u.text
  | json document => normDocument document

/-- A value that holds no double. -/
def FloatFree : Value → Prop
  | float _ => False
  | json document => document.FloatFree
  | _ => True

/-! ## The document of a normal value -/

theorem greatest_int : Int64.maxValue.toInt = 0x7fffffffffffffff := rfl

theorem ofInt64_ofInt {n : WordInteger} (fits : n.value ≤ Int64.maxValue.toInt) :
    WordInteger.ofInt64 (Int64.ofInt n.value) = n := by
  rw [greatest_int] at fits
  have value : (Int64.ofInt n.value).toInt = n.value :=
    Int64.toInt_ofInt_of_le n.lower (by omega)
  cases n
  rw [WordInteger.ofInt64]
  simpa using value

theorem ofUInt64_ofNat {n : WordInteger} (large : ¬n.value ≤ Int64.maxValue.toInt) :
    WordInteger.ofUInt64 (UInt64.ofNat n.value.toNat) = n := by
  rw [greatest_int] at large
  have upper := n.upper
  have below : n.value.toNat < 2 ^ 64 := by omega
  have value : (UInt64.ofNat n.value.toNat).toNat = n.value.toNat :=
    UInt64.toNat_ofNat_of_lt' below
  cases n
  rw [WordInteger.ofUInt64]
  simp only [WordInteger.mk.injEq]
  simp only at value large
  omega

theorem toJson_normInteger (n : WordInteger) : (normInteger n).toJson = .integer n := by
  unfold normInteger
  by_cases fits : n.value ≤ Int64.maxValue.toInt
  · rw [if_pos fits, toJson, ofInt64_ofInt fits]
  · rw [if_neg fits, toJson, ofUInt64_ofNat fits]

theorem byteDocument_byte {item : Json.Tree} (byte : item.isByte = true) :
    (byteDocument item.byte).tree = item := by
  cases item with
  | integer n =>
      simp only [Json.Tree.isByte, Bool.and_eq_true, decide_eq_true_eq] at byte
      have below : n.value.toNat < 2 ^ 8 := by omega
      have value : (UInt8.ofNat n.value.toNat).toNat = n.value.toNat :=
        UInt8.toNat_ofNat_of_lt' below
      cases n
      simp only [Json.Tree.byte, byteDocument, Json.integer, WordInteger.ofUInt64,
        Json.Tree.integer.injEq, WordInteger.mk.injEq, UInt8.toNat_toUInt64, value]
      simp only at byte
      omega
  | _ => cases byte

/-- The normal value of a document has this document. -/
theorem toJson_normDocument (document : Json) : (normDocument document).toJson = document := by
  obtain ⟨tree, ordered⟩ := document
  cases tree with
  | integer n => exact toJson_normInteger n
  | array items =>
      rw [normDocument_array rfl]
      by_cases bytes : items.all Json.Tree.isByte = true
      · have each : ∀ item ∈ items, ((Json.tree ∘ byteDocument) ∘ Json.Tree.byte) item = item :=
          fun item mem => byteDocument_byte (List.all_eq_true.1 bytes item mem)
        rw [if_pos bytes, toJson]
        refine Json.ext (congrArg Json.Tree.array ?_)
        rw [List.map_map, List.map_map, List.map_congr_left each, List.map_id']
      · rw [if_neg bytes, toJson]
  | _ => rfl

/-! ## The normal value of a document -/

theorem normInteger_ofInt64 (n : Int64) : normInteger (.ofInt64 n) = int n := by
  have fits : (WordInteger.ofInt64 n).value ≤ Int64.maxValue.toInt := Int64.toInt_le n
  rw [normInteger, if_pos fits, WordInteger.ofInt64, Int64.ofInt_toInt]

theorem isByte_byteDocument (b : UInt8) : (byteDocument b).tree.isByte = true := by
  have below := b.toNat_lt
  simp only [byteDocument, Json.integer, Json.Tree.isByte, WordInteger.ofUInt64, Bool.and_eq_true,
    decide_eq_true_eq, UInt8.toNat_toUInt64]
  omega

theorem byte_byteDocument (b : UInt8) : (byteDocument b).tree.byte = b := by
  simp [byteDocument, Json.integer, Json.Tree.byte, WordInteger.ofUInt64]

/-- A value that is no double is taken for what its document is taken for. -/
theorem norm_eq {v : Value} (exact : ∀ x, v ≠ float x) : v.norm = normDocument v.toJson := by
  cases v with
  | int n => rw [toJson, normDocument_integer, normInteger_ofInt64, norm]
  | uint n =>
      rw [toJson, normDocument_integer, normInteger, norm]
      simp [WordInteger.ofUInt64]
  | float x => exact absurd rfl (exact x)
  | bytes content =>
      have all : ((content.map byteDocument).map Json.tree).all Json.Tree.isByte = true := by
        simp [isByte_byteDocument]
      have same : ((content.map byteDocument).map Json.tree).map Json.Tree.byte = content := by
        simp [byte_byteDocument, Function.comp_def]
      rw [toJson, normDocument_array rfl, if_pos all, same, norm]
  | _ => rfl

theorem toJson_norm (v : Value) : v.norm.toJson = v.toJson := by
  by_cases double : ∃ x, v = float x
  · obtain ⟨x, rfl⟩ := double
    rfl
  · rw [norm_eq fun x same => double ⟨x, same⟩, toJson_normDocument]

theorem normDocument_ne_float (document : Json) (x : Binary64) :
    normDocument document ≠ float x := by
  intro same
  obtain ⟨tree, ordered⟩ := document
  cases tree with
  | integer n =>
      have same : normInteger n = float x := same
      rw [normInteger] at same
      split at same <;> cases same
  | array items =>
      rw [normDocument_array rfl] at same
      split at same <;> cases same
  | _ => cases same

theorem norm_norm (v : Value) : v.norm.norm = v.norm := by
  by_cases double : ∃ x, v = float x
  · obtain ⟨x, rfl⟩ := double
    rfl
  · have exact : ∀ x, v ≠ float x := fun x same => double ⟨x, same⟩
    have kept : ∀ x, v.norm ≠ float x := by
      rw [norm_eq exact]
      exact normDocument_ne_float v.toJson
    rw [norm_eq kept, toJson_norm, ← norm_eq exact]

/-! ## The value that is read -/

theorem byte?_eq (item : Json.Tree) :
    byte? item = if item.isByte then some item.byte else none := by
  cases item with
  | integer n =>
      rw [byte?, Json.Tree.isByte, Json.Tree.byte]
      by_cases byte : 0 ≤ n.value ∧ n.value < 256
      · rw [if_pos byte, if_pos (by simp only [Bool.and_eq_true, decide_eq_true_eq]; omega)]
      · rw [if_neg byte, if_neg (by simp only [Bool.and_eq_true, decide_eq_true_eq]; omega)]
  | _ => rfl

theorem mapM_byte? (items : List Json.Tree) :
    items.mapM byte?
      = if items.all Json.Tree.isByte then some (items.map Json.Tree.byte) else none := by
  induction items with
  | nil => rfl
  | cons item rest ih =>
      rw [List.mapM_cons, ih, byte?_eq, List.all_cons, List.map_cons]
      cases item.isByte <;> cases rest.all Json.Tree.isByte <;> rfl

theorem ofWord_eq (n : WordInteger) : ofWord n = normInteger n := by
  rw [ofWord, normInteger, greatest_int]
  by_cases fits : n.value < 0x8000000000000000
  · rw [if_pos fits, if_pos (by omega)]
  · rw [if_neg fits, if_neg (by omega)]

/-- What is read from a document that is no double is its normal value. -/
theorem ofJson_eq {document : Json} (exact : ∀ x, document.tree ≠ .real x) :
    ofJson document = normDocument document := by
  obtain ⟨tree, ordered⟩ := document
  cases tree with
  | integer n => exact ofWord_eq n
  | real x => exact absurd rfl (exact x)
  | array items =>
      rw [normDocument_array rfl, ofJson]
      simp only [mapM_byte?]
      by_cases bytes : items.all Json.Tree.isByte = true
      · rw [if_pos bytes, if_pos bytes]
      · rw [if_neg bytes, if_neg bytes]
  | _ => rfl

/-! ## Documents of values without doubles -/

theorem floatFree_toJson {v : Value} (free : v.FloatFree) : v.toJson.FloatFree := by
  cases v with
  | float x => exact free.elim
  | bytes content =>
      refine ⟨trivial, Json.throughoutItems_iff.2 fun item mem => ?_⟩
      obtain ⟨document, given, rfl⟩ := List.mem_map.1 mem
      obtain ⟨b, -, rfl⟩ := List.mem_map.1 given
      exact trivial
  | json document => exact free
  | _ => exact trivial

/-- A value without doubles is read back as its normal value. -/
theorem ofJson_toJson {v : Value} (free : v.FloatFree) : ofJson v.toJson = v.norm := by
  have exact : ∀ x, v ≠ float x := by
    rintro x rfl
    exact free
  have integral : ∀ x, v.toJson.tree ≠ .real x := by
    intro x same
    have integral := floatFree_toJson free
    rw [Json.FloatFree, same] at integral
    exact integral
  rw [ofJson_eq integral, norm_eq exact]

end Value

end SqlBuilder
