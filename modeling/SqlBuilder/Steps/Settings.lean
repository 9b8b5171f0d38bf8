import SqlBuilder.Steps.Where

set_option autoImplicit false

/-! # Steps that several kinds of statement share

What a statement carries beside its clauses is changed by the same steps in every kind of statement.
Selects, updates and deletes end in the same way and share the steps on the order and the limit of
their rows. -/

namespace SqlBuilder

/-! ## Settings

Conditions touch the settings too, since the first refused operator is remembered there. -/

/-- A step on what a statement carries beside its clauses. -/
inductive SettingStep where
  /-- Sets the flag that is handed to the executor. -/
  | debug (flag : Bool)
  /-- Replaces the whole statement by literal SQL. The last such step counts. -/
  | override (fragment : Fragment)
  /-- Attaches the statement to an executor. -/
  | attach (handle : Handle)

namespace Settings

/-- Takes one step. -/
def apply (settings : Settings) : SettingStep → Settings
  | .debug flag => { settings with debug := flag }
  | .override fragment => { settings with override := some fragment }
  | .attach handle => { settings with handle := some handle }

/-- Remembers a refused operator, unless there was one before. -/
def reject (settings : Settings) (operator : String) : Settings :=
  { settings with rejected := firstRejected settings.rejected (some operator) }

/-- The conditions of a statement as a group under construction. -/
def whereGroup (settings : Settings) (predicates : List Predicate) : WhereGroup :=
  { predicates, rejected := settings.rejected }

/-- The settings after steps that added conditions. -/
def afterWhere (settings : Settings) (group : WhereGroup) : Settings :=
  { settings with rejected := group.rejected }

end Settings

/-! ## Order and limit

Columns to sort by add up, and of several limits the last counts. -/

/-- A step on the order and the limit of rows. -/
inductive TailStep where
  | orderBy (column : String)
  | orderByDescending (column : String)
  | orderByDirection (column : String) (direction : Direction)
  | orderByEach (items : List (String × Direction))
  /-- Limits the rows, without an offset. -/
  | limit (count : Nat)
  | limitOffset (count offset : Nat)

namespace Tail

/-- Adds a column to sort by. -/
def sortBy (tail : Tail) (column : String) (direction : Direction) : Tail :=
  { tail with orderBy := tail.orderBy ++ [⟨column, direction⟩] }

/-- Takes one step. -/
def apply (tail : Tail) : TailStep → Tail
  | .orderBy column => tail.sortBy column .ascending
  | .orderByDescending column => tail.sortBy column .descending
  | .orderByDirection column direction => tail.sortBy column direction
  | .orderByEach items => items.foldl (fun tail item => tail.sortBy item.1 item.2) tail
  | .limit count => { tail with limit := some { count := some count } }
  | .limitOffset count offset => { tail with limit := some ⟨some count, some offset⟩ }

end Tail

end SqlBuilder
