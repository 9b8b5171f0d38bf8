import SqlBuilder.Query

set_option autoImplicit false

/-! # Statements without their executors

A statement carries a handle of its executor and a debug flag, and so does every select inside it.
*Detaching* takes all of them off, at any depth, and keeps everything else. Rendering looks at neither,
so a statement builds what it builds without them. -/

namespace SqlBuilder

/-! ## Detaching -/

/-- The settings without a handle and without the debug flag. -/
def Settings.detached (settings : Settings) : Settings :=
  { settings with handle := none, debug := false }

mutual

/-- An operand with the selects in it detached. -/
def Operand.detached : Operand → Operand
  | .value v => .value v
  | .list items => .list (detachedOperands items)
  | .raw fragment => .raw fragment
  | .call call => .call call.detached
  | .query select => .query select.detached

/-- A call with the selects in its arguments detached. -/
def Call.detached : Call → Call
  | ⟨name, args⟩ => ⟨name, detachedOperands args⟩

/-- Operands with the selects in them detached. -/
def detachedOperands : List Operand → List Operand
  | [] => []
  | operand :: rest => operand.detached :: detachedOperands rest

/-- What is selected, with the selects in it detached. -/
def ColumnExpr.detached : ColumnExpr → ColumnExpr
  | .name name => .name name
  | .raw fragment => .raw fragment
  | .call call => .call call.detached
  | .query select => .query select.detached

/-- An entry of a select list, with the selects in it detached. -/
def Column.detached : Column → Column
  | ⟨expr, label⟩ => ⟨expr.detached, label⟩

/-- The entries of a select list, with the selects in them detached. -/
def detachedColumns : List Column → List Column
  | [] => []
  | column :: rest => column.detached :: detachedColumns rest

/-- A table, with its select detached if it is derived. -/
def Table.detached : Table → Table
  | .named name => .named name
  | .labelled name label => .labelled name label
  | .derived select label => .derived select.detached label

/-- A joined table; there are no selects in its condition. -/
def Join.detached : Join → Join
  | ⟨kind, table, condition⟩ => ⟨kind, table.detached, condition⟩

/-- Joined tables, with the selects in them detached. -/
def detachedJoins : List Join → List Join
  | [] => []
  | join :: rest => join.detached :: detachedJoins rest

/-- A predicate with the selects in its operand, or in its group, detached. -/
def Predicate.detached : Predicate → Predicate
  | .compare combinator column operator value => .compare combinator column operator value.detached
  | .raw combinator fragment => .raw combinator fragment
  | .group combinator predicates => .group combinator (detachedPredicates predicates)

/-- Predicates with the selects in them detached. -/
def detachedPredicates : List Predicate → List Predicate
  | [] => []
  | predicate :: rest => predicate.detached :: detachedPredicates rest

/-- A select whose own handle and debug flag are taken off, and those of the selects inside it. -/
def Select.detached : Select → Select
  | ⟨settings, table, columns, distinct, joins, predicates, groupBy, tail⟩ =>
    ⟨settings.detached, table.detached, detachedColumns columns, distinct, detachedJoins joins,
      detachedPredicates predicates, groupBy, tail⟩

end

theorem detachedOperands_eq_map (operands : List Operand) :
    detachedOperands operands = operands.map Operand.detached := by
  induction operands with
  | nil => rfl
  | cons operand rest ih => rw [detachedOperands, ih, List.map_cons]

theorem detachedColumns_eq_map (columns : List Column) :
    detachedColumns columns = columns.map Column.detached := by
  induction columns with
  | nil => rfl
  | cons column rest ih => rw [detachedColumns, ih, List.map_cons]

theorem detachedJoins_eq_map (joins : List Join) :
    detachedJoins joins = joins.map Join.detached := by
  induction joins with
  | nil => rfl
  | cons join rest ih => rw [detachedJoins, ih, List.map_cons]

theorem detachedPredicates_eq_map (predicates : List Predicate) :
    detachedPredicates predicates = predicates.map Predicate.detached := by
  induction predicates with
  | nil => rfl
  | cons predicate rest ih => rw [detachedPredicates, ih, List.map_cons]

/-- The update of a row that is there already, with the selects in it detached. -/
def DuplicateUpdate.detached : DuplicateUpdate → DuplicateUpdate
  | assign column value => assign column value.detached
  | fromValues column => fromValues column

/-- Operands that are paired with columns. -/
def detachedPairs (pairs : List (String × Operand)) : List (String × Operand) :=
  pairs.map fun pair => (pair.1, pair.2.detached)

/-- An insert that is detached, with the selects in its table, rows and updates. -/
def Insert.detached (s : Insert) : Insert :=
  { s with
    settings := s.settings.detached
    table := s.table.detached
    rows := s.rows.map fun row => row.map Operand.detached
    duplicates := s.duplicates.map DuplicateUpdate.detached }

/-- An update that is detached, with the selects in its table, assignments and conditions. -/
def Update.detached (s : Update) : Update :=
  { s with
    settings := s.settings.detached
    table := s.table.detached
    assignments := detachedPairs s.assignments
    predicates := s.predicates.map Predicate.detached }

/-- A delete that is detached, with the selects in its table and conditions. -/
def Delete.detached (s : Delete) : Delete :=
  { s with
    settings := s.settings.detached
    table := s.table.detached
    predicates := s.predicates.map Predicate.detached }

/-- A statement without the handles and debug flags in it. -/
def Statement.detached : Statement → Statement
  | select s => select s.detached
  | insert s => insert s.detached
  | update s => update s.detached
  | delete s => delete s.detached

/-! ## Rendering looks at neither handles nor flags -/

theorem Settings.render_detached (settings : Settings) (clauses : Render String) :
    settings.detached.render clauses = settings.render clauses := rfl

theorem Predicate.combinator_detached (predicate : Predicate) :
    predicate.detached.combinator = predicate.combinator := by
  cases predicate <;> rfl

mutual

theorem Operand.renderName_detached :
    ∀ operand : Operand, operand.detached.renderName = operand.renderName
  | .value v => rfl
  | .list items => rfl
  | .raw fragment => rfl
  | .call call => by simp only [Operand.detached, Operand.renderName, call.renderName_detached]
  | .query select => by simp only [Operand.detached, Operand.renderName, select.render_detached]

theorem Call.renderName_detached : ∀ call : Call, call.detached.renderName = call.renderName
  | ⟨name, args⟩ => by simp only [Call.detached, Call.renderName, renderNames_detached args]

theorem renderNames_detached :
    ∀ operands : List Operand, renderNames (detachedOperands operands) = renderNames operands
  | [] => rfl
  | operand :: rest => by
      simp only [detachedOperands, renderNames, operand.renderName_detached,
        renderNames_detached rest]

theorem Operand.renderValue_detached :
    ∀ operand : Operand, operand.detached.renderValue = operand.renderValue
  | .value v => rfl
  | .list items => by simp only [Operand.detached, Operand.renderValue, renderValues_detached items]
  | .raw fragment => rfl
  | .call call => by simp only [Operand.detached, Operand.renderValue, call.renderValue_detached]
  | .query select => by simp only [Operand.detached, Operand.renderValue, select.render_detached]

theorem Call.renderValue_detached : ∀ call : Call, call.detached.renderValue = call.renderValue
  | ⟨name, args⟩ => by simp only [Call.detached, Call.renderValue, renderValues_detached args]

theorem renderValues_detached :
    ∀ operands : List Operand, renderValues (detachedOperands operands) = renderValues operands
  | [] => rfl
  | operand :: rest => by
      simp only [detachedOperands, renderValues, operand.renderValue_detached,
        renderValues_detached rest]

theorem ColumnExpr.render_detached : ∀ expr : ColumnExpr, expr.detached.render = expr.render
  | .name name => rfl
  | .raw fragment => rfl
  | .call call => by simp only [ColumnExpr.detached, ColumnExpr.render, call.renderName_detached]
  | .query select => by simp only [ColumnExpr.detached, ColumnExpr.render, select.render_detached]

theorem Column.render_detached : ∀ column : Column, column.detached.render = column.render
  | ⟨expr, label⟩ => by simp only [Column.detached, Column.render, expr.render_detached]

theorem renderColumns_detached (columns : List Column) :
    renderColumns (detachedColumns columns) = renderColumns columns := by
  cases columns with
  | nil => rfl
  | cons column rest =>
      simp only [detachedColumns, renderColumns, column.render_detached,
        renderColumns_detached rest]

theorem Table.render_detached : ∀ table : Table, table.detached.render = table.render
  | .named name => rfl
  | .labelled name label => rfl
  | .derived select label => by simp only [Table.detached, Table.render, select.render_detached]

theorem Join.render_detached : ∀ join : Join, join.detached.render = join.render
  | ⟨kind, table, condition⟩ => by simp only [Join.detached, Join.render, table.render_detached]

theorem renderJoins_detached (joins : List Join) :
    renderJoins (detachedJoins joins) = renderJoins joins := by
  cases joins with
  | nil => rfl
  | cons join rest =>
      simp only [detachedJoins, renderJoins, join.render_detached, renderJoins_detached rest]

theorem Predicate.render_detached :
    ∀ predicate : Predicate, predicate.detached.render = predicate.render
  | .compare combinator column operator value => by
      simp only [Predicate.detached, Predicate.render, value.renderValue_detached]
  | .raw combinator fragment => rfl
  | .group combinator predicates => by
      simp only [Predicate.detached, Predicate.render, renderPredicates_detached predicates]

theorem renderPredicates_detached (predicates : List Predicate) :
    renderPredicates (detachedPredicates predicates) = renderPredicates predicates := by
  cases predicates with
  | nil => rfl
  | cons predicate rest =>
      simp only [detachedPredicates, renderPredicates, predicate.render_detached,
        predicate.combinator_detached, renderPredicates_detached rest]

theorem Select.render_detached : ∀ select : Select, select.detached.render = select.render
  | ⟨settings, table, columns, distinct, joins, predicates, groupBy, tail⟩ => by
      simp only [Select.detached, Select.render, Settings.render_detached, table.render_detached,
        renderColumns_detached columns, renderJoins_detached joins,
        renderPredicates_detached predicates]

end

theorem renderWhere_detached (predicates : List Predicate) :
    renderWhere (predicates.map Predicate.detached) = renderWhere predicates := by
  rw [renderWhere, ← detachedPredicates_eq_map, renderPredicates_detached, renderWhere]

theorem renderRows_detached (rows : List (List Operand)) :
    renderRows (rows.map fun row => row.map Operand.detached) = renderRows rows := by
  induction rows with
  | nil => rfl
  | cons row rest ih =>
      rw [List.map_cons, renderRows, ← detachedOperands_eq_map, renderValues_detached, ih,
        renderRows]

theorem renderAssignments_detached (assignments : List (String × Operand)) :
    renderAssignments (detachedPairs assignments) = renderAssignments assignments := by
  induction assignments with
  | nil => rfl
  | cons assignment rest ih =>
      rw [detachedPairs] at ih ⊢
      rw [List.map_cons, renderAssignments, ih, renderAssignment, Operand.renderValue_detached,
        renderAssignments, renderAssignment]

theorem DuplicateUpdate.render_detached (update : DuplicateUpdate) :
    update.detached.render = update.render := by
  cases update with
  | assign column value =>
      rw [detached, render, renderAssignment, Operand.renderValue_detached, render,
        renderAssignment]
  | fromValues column => rfl

theorem renderDuplicates_detached (updates : List DuplicateUpdate) :
    renderDuplicates (updates.map DuplicateUpdate.detached) = renderDuplicates updates := by
  induction updates with
  | nil => rfl
  | cons update rest ih =>
      rw [List.map_cons, renderDuplicates, update.render_detached, ih, renderDuplicates]

theorem Statement.render_detached (s : Statement) : s.detached.render = s.render := by
  cases s with
  | select s => exact s.render_detached
  | insert s =>
      simp only [detached, render, Insert.render, Insert.detached, Settings.render_detached,
        Table.render_detached, renderRows_detached, renderDuplicates_detached, List.isEmpty_map]
  | update s =>
      have empty : (detachedPairs s.assignments).isEmpty = s.assignments.isEmpty :=
        List.isEmpty_map
      simp only [detached, render, Update.render, Update.detached, Settings.render_detached,
        Table.render_detached, renderAssignments_detached, renderWhere_detached, empty]
  | delete s =>
      simp only [detached, render, Delete.render, Delete.detached, Settings.render_detached,
        Table.render_detached, renderWhere_detached]

/-- Statements that differ only in handles and debug flags, at any depth, build the same. -/
theorem Statement.build_of_detached {s t : Statement} (same : s.detached = t.detached) :
    s.build = t.build := by
  have rendered : s.render = t.render := by
    rw [← s.render_detached, same, t.render_detached]
  rw [build, build, outcome, outcome, rendered]

end SqlBuilder
