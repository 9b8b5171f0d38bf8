import SqlBuilder.Client.Row
import SqlBuilder.Proofs.Json.Values

set_option autoImplicit false

/-! # Results are read back from their texts

What an executor returns is written as JSON and read again. Rows, their columns and the names of the
columns stay as they are, and every value becomes the normal value with its document. -/

namespace SqlBuilder

/-! ## Normal results -/

namespace Row

/-- The names of the columns, in their order. -/
def names (row : Row) : List String :=
  row.columns.map (·.1)

/-- The values of the columns, in their order. -/
def values (row : Row) : List Value :=
  row.columns.map (·.2)

/-- The row with normal values. -/
def norm (row : Row) : Row :=
  ⟨row.columns.map fun column => (column.1, column.2.norm)⟩

theorem names_norm (row : Row) : row.norm.names = row.names := by
  rw [norm, names, List.map_map]
  rfl

theorem toJson_norm (row : Row) : row.norm.toJson = row.toJson := by
  have each : ∀ column ∈ row.columns, columnJson (column.1, column.2.norm) = columnJson column := by
    intro column _
    rw [columnJson, Value.toJson_norm, columnJson]
  rw [norm, toJson, List.map_map, toJson, ← List.map_congr_left each]
  rfl

end Row

namespace QueryOutput

/-- The names of the columns of each row. -/
def names : QueryOutput → List (List String)
  | rows all => all.map Row.names
  | count _ => []

/-- All values in a result. -/
def values : QueryOutput → List Value
  | rows all => all.flatMap Row.values
  | count _ => []

/-- The result with normal values. -/
def norm : QueryOutput → QueryOutput
  | rows all => rows (all.map Row.norm)
  | count n => count n

theorem names_norm (output : QueryOutput) : output.norm.names = output.names := by
  cases output with
  | rows all => simp [norm, names, Row.names_norm, Function.comp_def]
  | count n => rfl

theorem toJson_norm (output : QueryOutput) : output.norm.toJson = output.toJson := by
  cases output with
  | rows all => simp [norm, toJson, Row.toJson_norm, Function.comp_def]
  | count n => rfl

end QueryOutput

/-! ## Lists -/

/-- An array is read if its items are. -/
theorem readArray_form {α β : Type} {read : Nat → Json.Form → Option β} {n : Nat}
    {document : α → Json} {result : α → β} {all : List α}
    (each : ∀ a ∈ all, read n (document a).form = some (result a)) :
    readArray read (n + 1) (Json.array (all.map document)).form = some (all.map result) := by
  rw [Json.form_array, List.map_map, readArray]
  induction all with
  | nil => rfl
  | cons a rest ih =>
      obtain ⟨first, others⟩ := List.forall_mem_cons.1 each
      rw [List.map_cons, readAll, Function.comp_apply, first, ih others]
      rfl

/-! ## Rows -/

namespace Row

theorem readColumn_form {column : String × Value} {n : Nat} (free : column.2.FloatFree)
    (shallow : (columnJson column).depth ≤ n) :
    readColumn n (columnJson column).form = some (column.1, column.2.norm) := by
  obtain ⟨m, rfl, each⟩ := Json.exists_depth_array shallow
  have inner := each column.2.toJson (List.mem_cons_of_mem _ (List.mem_singleton_self _))
  have value := Json.ofForm?_form (Value.floatFree_toJson free) inner
  have name : (Json.string column.1).form = .string (Json.unitsOf column.1) := rfl
  simp [columnJson, Json.form_array, name, readColumn, Json.stringOfUnits_unitsOf, value,
    Value.ofJson_toJson free]

theorem read_form {row : Row} {n : Nat} (free : ∀ v ∈ row.values, v.FloatFree)
    (shallow : row.toJson.depth ≤ n) : read n row.toJson.form = some row.norm := by
  obtain ⟨m, rfl, list⟩ := Json.exists_depth_member shallow
  obtain ⟨k, rfl, each⟩ := Json.exists_depth_array list
  have columns : ∀ column ∈ row.columns,
      readColumn k (columnJson column).form = some (column.1, column.2.norm) := by
    intro column mem
    exact readColumn_form (free _ (List.mem_map_of_mem mem)) (each _ (List.mem_map_of_mem mem))
  have array := readArray_form columns
  rw [toJson, Json.form_member]
  simp [read, readMembers, Json.stringOfUnits_unitsOf, array, norm]

theorem floatFree_toJson {row : Row} (free : ∀ v ∈ row.values, v.FloatFree) :
    row.toJson.FloatFree := by
  refine Json.floatFree_member _ (Json.floatFree_array fun item mem => ?_)
  obtain ⟨column, given, rfl⟩ := List.mem_map.1 mem
  have value := Value.floatFree_toJson (free column.2 (List.mem_map_of_mem given))
  refine Json.floatFree_array (List.forall_mem_cons.2 ⟨trivial, ?_⟩)
  exact List.forall_mem_singleton.2 value

end Row

namespace QueryOutput

theorem floatFree_toJson {output : QueryOutput} (free : ∀ v ∈ output.values, v.FloatFree) :
    output.toJson.FloatFree := by
  cases output with
  | rows all =>
      refine Json.floatFree_member _ (Json.floatFree_array fun item mem => ?_)
      obtain ⟨row, given, rfl⟩ := List.mem_map.1 mem
      exact Row.floatFree_toJson fun v value => free v (List.mem_flatMap.2 ⟨row, given, value⟩)
  | count n => exact Json.floatFree_member _ trivial

theorem readCount_form (n : UInt64) :
    readCount (Json.integer (.ofUInt64 n)).form = some n := by
  have number : Json.meaning? 0 (Json.integer (.ofUInt64 n)).form = some (.integer (.ofUInt64 n)) :=
    Json.meaning_form (.integer (.ofUInt64 n)) 0 trivial trivial (Nat.le_refl 0)
  rw [readCount, number]
  simp [WordInteger.ofUInt64]

theorem read_form {output : QueryOutput} {n : Nat} (free : ∀ v ∈ output.values, v.FloatFree)
    (shallow : output.toJson.depth ≤ n) : read n output.toJson.form = some output.norm := by
  cases output with
  | rows all =>
      obtain ⟨m, rfl, list⟩ := Json.exists_depth_member shallow
      obtain ⟨k, rfl, inner⟩ := Json.exists_depth_array list
      have each : ∀ row ∈ all, Row.read k row.toJson.form = some row.norm := by
        intro row given
        have inside (v : Value) (value : v ∈ row.values) : v ∈ (QueryOutput.rows all).values :=
          List.mem_flatMap.2 ⟨row, given, value⟩
        exact Row.read_form (fun v value => free v (inside v value))
          (inner _ (List.mem_map_of_mem given))
      have array := readArray_form each
      rw [toJson, Json.form_member]
      simp [read, Json.stringOfUnits_unitsOf, array, norm]
  | count k =>
      obtain ⟨m, rfl, -⟩ := Json.exists_depth_member shallow
      rw [toJson, Json.form_member]
      simp [read, Json.stringOfUnits_unitsOf, readCount_form, norm]

/-- A result without doubles, whose arrays and objects lie in each other as deep as is read, is read
back from its text with the normal values in place of its values, in the same rows and under the
same names. The normal values have the same texts and are normal, so the text of what was read is
read back as it is. -/
theorem text_round_trip {output : QueryOutput} (free : ∀ v ∈ output.values, v.FloatFree)
    (shallow : output.toJson.depth ≤ Json.greatestDepth) :
    ofText? output.toJson.text = some output.norm
      ∧ output.norm.names = output.names
      ∧ output.norm.toJson.text = output.toJson.text
      ∧ ofText? output.norm.toJson.text = some output.norm
      ∧ ∀ v : Value, v.norm.norm = v.norm ∧ v.norm.toJson.text = v.toJson.text := by
  have back : ofText? output.toJson.text = some output.norm := by
    rw [ofText?, Json.formOfText_text (floatFree_toJson free)]
    exact read_form free shallow
  refine ⟨back, output.names_norm, by rw [toJson_norm], by rw [toJson_norm, back], fun v => ?_⟩
  exact ⟨v.norm_norm, by rw [v.toJson_norm]⟩

/-- A row with two columns of one name, a nested document, words of both signs, bytes, a day and a
control character in a name; and a row without columns. -/
theorem text_round_trip_nested :
    let document := Json.object [("k", .array [.integer (.ofInt64 300), .string "\\"]),
      ("l", .object [("", .array [])])]
    let output := QueryOutput.rows
      [⟨[("a", .json document), ("a", .uint 0xffffffffffffffff), ("b\x01\n", .bytes [0, 255]),
        ("d", .date ⟨2024, 2, 29⟩), ("e", .uint 7), ("f", .json (.array []))]⟩, ⟨[]⟩]
    (∀ v ∈ output.values, v.FloatFree) ∧ output.toJson.depth ≤ Json.greatestDepth
      ∧ ofText? output.toJson.text = some (.rows
        [⟨[("a", .json document), ("a", .uint 0xffffffffffffffff), ("b\x01\n", .bytes [0, 255]),
          ("d", .text "2024-02-29"), ("e", .int 7), ("f", .bytes [])]⟩, ⟨[]⟩]) := by
  intro document output
  -- the values one after the other, of which two are documents
  have free : ∀ v ∈ output.values, v.FloatFree := by
    have nested : document.FloatFree :=
      ⟨trivial, ⟨trivial, trivial, trivial, trivial⟩, ⟨trivial, ⟨trivial, trivial⟩, trivial⟩, trivial⟩
    simp only [output, values, Row.values, List.flatMap_cons, List.flatMap_nil, List.map_cons,
      List.map_nil, List.append_nil, List.forall_mem_cons]
    exact ⟨nested, trivial, trivial, trivial, trivial, ⟨trivial, trivial⟩, List.forall_mem_nil _⟩
  have shallow : output.toJson.depth ≤ Json.greatestDepth := by decide
  exact ⟨free, shallow, (text_round_trip free shallow).1⟩

end QueryOutput

end SqlBuilder
