import SqlBuilder.Proofs.Safety

set_option autoImplicit false

/-! # Debug SQL is read back

Two ways of quoting meet in debug SQL: names between delimiters, and literals between double quotes
with backslashes inside. A reader that knows both takes the text apart again. It finds the SQL text
with its placeholders, and in each literal the plain text of the value that stands there. So no
value ends its own literal, and none is taken for SQL, whatever characters it has. -/

namespace SqlBuilder

/-! ## The reader -/

/-- Where a reader of debug SQL is. -/
inductive DebugState where
  /-- In the SQL text, inside a quoted name or outside. -/
  | sql (quoted : Bool)
  /-- Inside a literal, with what has been read of it. -/
  | literal (read : List Char)
  /-- Inside a literal, after a backslash. -/
  | escaped (read : List Char)

/-- What a character stands for after a backslash. -/
def unslashed (c : Char) : Char :=
  if c = '0' then '\x00' else c

/-- Reads debug SQL from a state on: the SQL text with a `?` for each literal, and the contents of
the literals. A text that ends inside a literal cannot be read. -/
def readDebug : DebugState → List Char → Option (List Char × List (List Char))
  | .sql _, [] => some ([], [])
  | .sql quoted, c :: rest =>
    if c = '"' ∧ quoted = false then
      (readDebug (.literal []) rest).map fun later => ('?' :: later.1, later.2)
    else
      (readDebug (.sql (if c = delimiter then !quoted else quoted)) rest).map fun later =>
        (c :: later.1, later.2)
  | .literal read, c :: rest =>
    if c = '"' then
      (readDebug (.sql false) rest).map fun later => (later.1, read :: later.2)
    else if c = '\\' then readDebug (.escaped read) rest
    else readDebug (.literal (read ++ [c])) rest
  | .escaped read, c :: rest => readDebug (.literal (read ++ [unslashed c])) rest
  | _, [] => none

/-- Reads debug SQL. -/
def readDebugSql (text : String) : Option (String × List String) :=
  (readDebug (.sql false) text.toList).map fun read =>
    (String.ofList read.1, read.2.map String.ofList)

/-! ## Literals -/

/-- However a character is written inside a literal, it is read as itself. -/
theorem readDebug_slashedChar (read : List Char) (c : Char) (rest : List Char) :
    readDebug (.literal read) (slashedChar c ++ rest) = readDebug (.literal (read ++ [c])) rest := by
  unfold slashedChar
  by_cases special : c = '\x27' ∨ c = '"' ∨ c = '\\'
  · have kept : unslashed c = c := by
      rcases special with rfl | rfl | rfl <;> rfl
    have opened : readDebug (.literal read) ('\\' :: c :: rest)
        = readDebug (.literal (read ++ [unslashed c])) rest := rfl
    rw [if_pos special]
    exact opened.trans (by rw [kept])
  · rw [if_neg special]
    obtain ⟨-, quote, slash⟩ : c ≠ '\x27' ∧ c ≠ '"' ∧ c ≠ '\\' := by
      simpa only [not_or] using special
    by_cases nul : c = '\x00'
    · subst nul
      rfl
    · rw [if_neg nul, List.singleton_append, readDebug, if_neg quote, if_neg slash]

/-- A written text is read up to the quote that closes it, and no further. -/
theorem readDebug_slashed (read text rest : List Char) :
    readDebug (.literal read) (text.flatMap slashedChar ++ '"' :: rest)
      = (readDebug (.sql false) rest).map fun later => (later.1, (read ++ text) :: later.2) := by
  induction text generalizing read with
  | nil =>
      rw [List.flatMap_nil, List.nil_append, List.append_nil, readDebug, if_pos rfl]
  | cons c text ih =>
      rw [List.flatMap_cons, List.append_assoc, readDebug_slashedChar, ih, List.append_assoc,
        List.singleton_append]

/-- The literal of a value is read as a placeholder and the plain text of the value. -/
theorem readDebug_debugLiteral {v : Value} (some_value : v.isNull = false) (rest : List Char) :
    readDebug (.sql false) (v.debugLiteral.toList ++ rest)
      = (readDebug (.sql false) rest).map fun later =>
          ('?' :: later.1, v.plainText.toList :: later.2) := by
  have written : v.debugLiteral.toList
      = '"' :: (v.plainText.toList.flatMap slashedChar ++ ['"']) := by
    simp [Value.debugLiteral, some_value]
  have opened : '"' = '"' ∧ false = false := ⟨rfl, rfl⟩
  rw [written, List.cons_append, List.append_assoc, List.singleton_append, readDebug, if_pos opened,
    readDebug_slashed, Option.map_map, List.nil_append]
  rfl

/-! ## The SQL text around literals -/

/-- Outside literals everything but a quote outside names is read as it is. -/
theorem readDebug_sql {quoted : Bool} {c : Char} (bare : ¬(c = '"' ∧ quoted = false))
    (rest : List Char) :
    readDebug (.sql quoted) (c :: rest)
      = (readDebug (.sql (if c = delimiter then !quoted else quoted)) rest).map fun later =>
          (c :: later.1, later.2) := by
  rw [readDebug, if_neg bare]

theorem bareChars_cons {quoted : Bool} {c d : Char} {rest : List Char}
    (absent : d ∉ bareChars quoted (c :: rest)) (other : d ≠ delimiter) :
    ¬(c = d ∧ quoted = false)
      ∧ d ∉ bareChars (if c = delimiter then !quoted else quoted) rest := by
  rw [bareChars] at absent
  by_cases quote : c = delimiter
  · rw [if_pos quote] at absent
    refine ⟨fun h => other (h.1.symm.trans quote), ?_⟩
    rw [if_pos quote]
    exact absent
  · rw [if_neg quote] at absent ⊢
    cases quoted with
    | true => exact ⟨fun h => by simp at h, absent⟩
    | false =>
        obtain ⟨first, later⟩ := not_or.1 (mt List.mem_cons.2 absent)
        exact ⟨fun h => first h.1.symm, later⟩

/-- A question mark outside names is a placeholder, and no other character is. -/
theorem markPlaceholders_cons {quoted : Bool} {c : Char} (other : ¬(c = '?' ∧ quoted = false))
    (rest : List Char) :
    markPlaceholders quoted (c :: rest)
      = (c, false) :: markPlaceholders (if c = delimiter then !quoted else quoted) rest := by
  have unmarked : (c == '?' && !(if c = delimiter then !quoted else quoted)) = false := by
    by_cases mark : c = '?'
    · have inside : quoted = true := by
        simpa using fun outside => other ⟨mark, outside⟩
      rw [mark, inside]
      rfl
    · simp [mark]
  rw [markPlaceholders, unmarked]

/-- Filling in values and reading the text are inverse to each other. Placeholders without a value
stay in the text, and values without a placeholder never get into it. -/
theorem readDebug_fillPlaceholders {quoted : Bool} {cs : List Char} {params : List Value}
    (unquoted : '"' ∉ bareChars quoted cs) (values : ∀ v ∈ params, v.isNull = false) :
    readDebug (.sql quoted) (fillPlaceholders (markPlaceholders quoted cs) params)
      = some (cs, (params.take ((markPlaceholders quoted cs).countP (·.2))).map
          fun v => v.plainText.toList) := by
  induction cs generalizing quoted params with
  | nil => simp [markPlaceholders, fillPlaceholders, readDebug]
  | cons c rest ih =>
      obtain ⟨bare, later⟩ := bareChars_cons unquoted (by decide)
      by_cases marked : c = '?' ∧ quoted = false
      · obtain ⟨rfl, rfl⟩ := marked
        have marks : markPlaceholders false ('?' :: rest)
            = ('?', true) :: markPlaceholders false rest := rfl
        have same : (if '?' = delimiter then !false else false) = false := rfl
        rw [marks, List.countP_cons_of_pos rfl]
        rw [same] at later
        cases params with
        | nil =>
            -- the placeholder is read like any other character
            have left : fillPlaceholders (('?', true) :: markPlaceholders false rest) []
                = '?' :: fillPlaceholders (markPlaceholders false rest) [] := by
              simp [fillPlaceholders]
            rw [left, readDebug_sql bare, same, ih later values, List.take_nil, List.take_nil]
            rfl
        | cons v params =>
            obtain ⟨first, others⟩ := List.forall_mem_cons.1 values
            rw [fillPlaceholders, readDebug_debugLiteral first, ih later others]
            rfl
      · have kept : fillPlaceholders
            ((c, false) :: markPlaceholders (if c = delimiter then !quoted else quoted) rest) params
            = c :: fillPlaceholders
                (markPlaceholders (if c = delimiter then !quoted else quoted) rest) params := by
          simp [fillPlaceholders]
        rw [markPlaceholders_cons marked, List.countP_cons_of_neg (by simp), kept,
          readDebug_sql bare, ih later values]
        rfl

/-- Debug SQL is read back: as the SQL text, with the plain texts of the values that stand in it, in
order. There may be more placeholders than values or more values than placeholders. -/
theorem Query.debugSql_read_back (query : Query)
    (unquoted : '"' ∉ bareChars false query.sql.toList)
    (values : ∀ v ∈ query.params, v.isNull = false) :
    readDebugSql query.debugSql
      = some (query.sql,
          (query.params.take (min query.placeholderCount query.params.length)).map
            Value.plainText) := by
  have read := readDebug_fillPlaceholders unquoted values
  have shown : query.params.take query.placeholderCount
      = query.params.take (min query.placeholderCount query.params.length) := by
    rw [← List.take_take, List.take_length]
  rw [readDebugSql, debugSql, String.toList_ofList, read, ← placeholderCount, shown]
  simp [Function.comp_def]

/-- A text with every character that is special in names, literals or SQL, a number, and one
placeholder more than there are values. -/
theorem Query.debugSql_read_back_hostile :
    let query : Query :=
      ⟨"Select `\"?``` From `t` Where `a` = ? Or `b` In (?, ?)",
        [.text "\"\\'`?0\x00", .int (-3)]⟩
    '"' ∉ bareChars false query.sql.toList
      ∧ (∀ v ∈ query.params, v.isNull = false)
      ∧ query.debugSql
        = "Select `\"?``` From `t` Where `a` = \"\\\"\\\\\\'`?0\\0\" Or `b` In (\"-3\", ?)"
      ∧ readDebugSql query.debugSql = some (query.sql, ["\"\\'`?0\x00", "-3"]) := by
  intro query
  have unquoted : '"' ∉ bareChars false query.sql.toList := by decide
  have values : ∀ v ∈ query.params, v.isNull = false := by
    intro v mem
    simp only [query, List.mem_cons, List.not_mem_nil, or_false] at mem
    rcases mem with rfl | rfl <;> rfl
  refine ⟨unquoted, values, by decide, ?_⟩
  rw [query.debugSql_read_back unquoted values]
  decide

end SqlBuilder
