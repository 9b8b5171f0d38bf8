import SqlBuilder.Steps.Settings

set_option autoImplicit false

/-! # Steps that build an insert

Rows are given by position or by column name. Rows that are given by name supply the column list if
there is none yet; the values of a row keep the order in which they are given. -/

namespace SqlBuilder

/-- A step on an insert. -/
inductive InsertStep where
  | setting (step : SettingStep)
  /-- Adds to the column list. -/
  | columns (columns : List String)
  /-- Adds a row by position. -/
  | values (row : List Operand)
  | valuesEach (rows : List (List Operand))
  /-- Adds a row by column name. -/
  | named (row : List (String × Operand))
  | namedEach (rows : List (List (String × Operand)))
  | ignore (flag : Bool)
  /-- Sets a column of a row that is there already. -/
  | onDuplicate (column : String) (value : Operand)
  | onDuplicateEach (pairs : List (String × Operand))
  /-- Sets columns of a row that is there already to the values that were to be inserted. -/
  | onDuplicateValues (columns : List String)

namespace Insert

/-- Adds a row by position, unless it is empty. -/
def addRow (s : Insert) (row : List Operand) : Insert :=
  if row.isEmpty then s else { s with rows := s.rows ++ [row] }

/-- Adds a row by column name, unless it is empty. -/
def addNamed (s : Insert) (row : List (String × Operand)) : Insert :=
  if row.isEmpty then
    s
  else
    { s with
      columns := if s.columns.isEmpty then row.map (·.1) else s.columns
      rows := s.rows ++ [row.map (·.2)] }

/-- Adds to what is done to a row that is there already. -/
def addDuplicate (s : Insert) (update : DuplicateUpdate) : Insert :=
  { s with duplicates := s.duplicates ++ [update] }

/-- Takes one step. -/
def apply (s : Insert) : InsertStep → Insert
  | .setting step => { s with settings := s.settings.apply step }
  | .columns columns => { s with columns := s.columns ++ columns }
  | .values row => s.addRow row
  | .valuesEach rows => rows.foldl addRow s
  | .named row => s.addNamed row
  | .namedEach rows => rows.foldl addNamed s
  | .ignore flag => { s with ignore := flag }
  | .onDuplicate column value => s.addDuplicate (.assign column value)
  | .onDuplicateEach pairs =>
    pairs.foldl (fun s pair => s.addDuplicate (.assign pair.1 pair.2)) s
  | .onDuplicateValues columns =>
    { s with duplicates := s.duplicates ++ columns.map .fromValues }

/-- The insert that steps build. -/
def ofSteps (table : Table) (steps : List InsertStep) : Insert :=
  steps.foldl apply { table }

end Insert

end SqlBuilder
