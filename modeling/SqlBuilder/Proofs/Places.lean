import SqlBuilder.Proofs.Assignments
import SqlBuilder.Proofs.FirstClause

set_option autoImplicit false

/-! # Places in statements

A clause stands in its statement in a frame, an entry in its clause, and a part in its entry. The
frame of a part is put together from these: what stands around it does not depend on it, at whatever
depth it stands. -/

namespace SqlBuilder

/-! ## Frames -/

namespace Frame

/-- The frame with another one in its place. -/
def holding : Frame → Frame → Frame
  | fixed result, _ => fixed result
  | around before after, fixed result => fixed ((around before after).fill result)
  | around before after, around first last =>
    around
      (do
        let before ← before
        let first ← first
        return before ++ first)
      (do
        let last ← last
        let after ← after
        return last ++ after)

theorem fill_holding (outer inner : Frame) (part : Except QueryError Query) :
    (outer.holding inner).fill part = outer.fill (inner.fill part) := by
  rcases outer with _ | ⟨before, after⟩
  · rfl
  · rcases inner with _ | ⟨first, last⟩
    · rfl
    · rcases before with _ | before
      · rfl
      · rcases first with _ | first
        · rfl
        · rcases part with _ | part
          · rfl
          · rcases last with _ | last
            · rfl
            · rcases after with _ | after
              · rfl
              · -- both sides are the five texts one after the other
                show Except.ok _ = Except.ok _
                simp only [Query.append_assoc]

/-- The errors of a part aside, what a frame yields depends on what the part yields. -/
theorem toOption_fill (frame : Frame) {part other : Except QueryError Query}
    (same : part.toOption = other.toOption) :
    (frame.fill part).toOption = (frame.fill other).toOption := by
  rcases frame with _ | ⟨before, after⟩
  · rfl
  · rcases before with _ | before
    · rfl
    · rcases part with _ | part
      · rcases other with _ | other
        · rfl
        · cases same
      · rcases other with _ | other
        · cases same
        · obtain rfl := Option.some.inj same
          rfl

/-- A frame of two texts that bind nothing. -/
def between (opening closing : String) : Frame :=
  around (.ok (.bare opening)) (.ok (.bare closing))

/-- What stands around an entry of a list: the text of the entries before it, and the text of those
after it. -/
def entry {α β : Type} (body : α → Render β) (start finish : List β → String)
    (before after : List α) : Frame :=
  around (start <$> before.mapM body).query (finish <$> after.mapM body).query

end Frame

namespace Render

theorem query_between (opening closing : String) (r : Render String) :
    ((fun text => opening ++ text ++ closing) <$> r).query
      = (Frame.between opening closing).fill r.query := by
  rw [query_map]
  rcases r.query with _ | text
  · rfl
  · show Except.ok _ = Except.ok _
    simp [Query.append_eq, Query.bare]

/-- A list is written with an entry between the others, if joining the texts puts the text of the
entry between theirs. -/
theorem query_entry {α β : Type} {body : α → Render β} (appends : ∀ a, (body a).Appends)
    {a : α} {r : Render String} {part : String → β} (here : body a = part <$> r) (hr : r.Appends)
    {join start finish : List β → String}
    (inserts : ∀ before text after,
      join (before ++ part text :: after) = start before ++ (text ++ finish after))
    (before after : List α) :
    (join <$> (before ++ a :: after).mapM body).query
      = (Frame.entry body start finish before after).fill r.query := by
  refine query_eq_fill ?_ hr ((Appends.mapM appends after).map finish)
  simp only [List.mapM_append, List.mapM_cons, here, append_eq, map_eq_pure_bind, bind_assoc,
    pure_bind, inserts]

end Render

/-! ## Lists with a place -/

/-- Texts with a comma after each. -/
def commasStart (texts : List String) : String :=
  String.join (texts.map (· ++ ", "))

theorem commas_insert (before : List String) (text : String) (after : List String) :
    commas (before ++ text :: after) = commasStart before ++ (text ++ commasEnd after) := by
  induction before with
  | nil => simp [commas_cons, commasStart]
  | cons first rest ih =>
      have later : rest ++ text :: after ≠ [] := by simp
      have second : commas (first :: (rest ++ text :: after))
          = first ++ ", " ++ commas (rest ++ text :: after) :=
        String.intercalate_cons_of_ne_nil later
      rw [List.cons_append, second, ih, commasStart, commasStart, List.map_cons, String.join_cons]
      simp only [String.append_assoc]

theorem selectListText_insert (before : List String) (text : String) (after : List String) :
    selectListText (before ++ text :: after) = commasStart before ++ (text ++ commasEnd after) := by
  rw [← commas_insert]
  cases before <;> rfl

theorem joins_insert (before : List String) (text : String) (after : List String) :
    String.join (before ++ text :: after) = String.join before ++ (text ++ String.join after) := by
  rw [String.join_append, String.join_cons]

/-- The text of conditions before another one with this combinator. -/
def conditionsStart (combinator : Combinator) : List (Combinator × String) → String
  | [] => ""
  | parts => conditionText parts ++ " " ++ combinator.keyword ++ " "

/-- The text of conditions after another one. -/
def conditionsEnd (parts : List (Combinator × String)) : String :=
  String.join (parts.map fun part => " " ++ part.1.keyword ++ " " ++ part.2)

theorem conditionText_insert (combinator : Combinator) (before : List (Combinator × String))
    (text : String) (after : List (Combinator × String)) :
    conditionText (before ++ (combinator, text) :: after)
      = conditionsStart combinator before ++ (text ++ conditionsEnd after) := by
  cases before with
  | nil => simp [conditionText, conditionsStart, conditionsEnd]
  | cons first rest =>
      rw [conditionText_append (List.cons_ne_nil first rest)]
      simp only [conditionsStart, conditionsEnd, conditionText, String.append_assoc]

theorem whereText_insert (combinator : Combinator) (before : List (Combinator × String))
    (text : String) (after : List (Combinator × String)) :
    whereText (before ++ (combinator, text) :: after)
      = " Where " ++ conditionsStart combinator before ++ (text ++ conditionsEnd after) := by
  have filled : whereText (before ++ (combinator, text) :: after)
      = " Where " ++ conditionText (before ++ (combinator, text) :: after) := by
    cases before <;> rfl
  rw [filled, conditionText_insert, String.append_assoc]

/-! ## Entries of clauses -/

theorem renderColumns_eq_mapM (columns : List Column) :
    renderColumns columns = columns.mapM Column.render := by
  induction columns with
  | nil => simp only [renderColumns, List.mapM_nil]
  | cons column rest ih => rw [renderColumns, List.mapM_cons, ih]

theorem renderJoins_eq_mapM (joins : List Join) : renderJoins joins = joins.mapM Join.render := by
  induction joins with
  | nil => simp only [renderJoins, List.mapM_nil]
  | cons join rest ih => rw [renderJoins, List.mapM_cons, ih]

/-- A predicate with its combinator. -/
def Predicate.renderPart (predicate : Predicate) : Render (Combinator × String) :=
  (predicate.combinator, ·) <$> predicate.render

theorem renderPredicates_eq_mapM (predicates : List Predicate) :
    renderPredicates predicates = predicates.mapM Predicate.renderPart := by
  induction predicates with
  | nil => simp only [renderPredicates, List.mapM_nil]
  | cons predicate rest ih =>
      rw [renderPredicates, List.mapM_cons, ih]
      simp only [Predicate.renderPart, map_eq_pure_bind, bind_assoc, pure_bind]

/-- A row of an insert. -/
def renderRow (row : List Operand) : Render String :=
  (fun values => "(" ++ commas values ++ ")") <$> renderValues row

theorem renderRows_eq_mapM (rows : List (List Operand)) : renderRows rows = rows.mapM renderRow := by
  induction rows with
  | nil => simp only [renderRows, List.mapM_nil]
  | cons row rest ih =>
      rw [renderRows, List.mapM_cons, ih]
      simp only [renderRow, map_eq_pure_bind, bind_assoc, pure_bind]

theorem renderDuplicates_eq_mapM (updates : List DuplicateUpdate) :
    renderDuplicates updates = updates.mapM DuplicateUpdate.render := by
  induction updates with
  | nil => simp only [renderDuplicates, List.mapM_nil]
  | cons update rest ih => rw [renderDuplicates, List.mapM_cons, ih]

theorem renderNames_eq_mapM (operands : List Operand) :
    renderNames operands = operands.mapM Operand.renderName := by
  induction operands with
  | nil => simp only [renderNames, List.mapM_nil]
  | cons operand rest ih => rw [renderNames, List.mapM_cons, ih]

theorem renderValues_eq_mapM (operands : List Operand) :
    renderValues operands = operands.mapM Operand.renderValue := by
  induction operands with
  | nil => simp only [renderValues, List.mapM_nil]
  | cons operand rest ih => rw [renderValues, List.mapM_cons, ih]

/-- What is expected where an operand stands. -/
inductive OperandRole where
  | name
  | value

/-- An operand where a name or a value is expected. -/
def Operand.renderAs : OperandRole → Operand → Render String
  | .name => Operand.renderName
  | .value => Operand.renderValue

/-- A call whose arguments are names or values. -/
def Call.renderAs : OperandRole → Call → Render String
  | .name => Call.renderName
  | .value => Call.renderValue

theorem Call.renderAs_eq (role : OperandRole) (name : String) (args : List Operand) :
    (Call.mk name args).renderAs role = callText name <$> args.mapM (Operand.renderAs role) := by
  cases role with
  | name => simp only [renderAs, renderName, renderNames_eq_mapM, map_eq_pure_bind, Operand.renderAs]
  | value =>
      simp only [renderAs, renderValue, renderValues_eq_mapM, map_eq_pure_bind, Operand.renderAs]

theorem Operand.renderAs_appends (role : OperandRole) (operand : Operand) :
    (operand.renderAs role).Appends := by
  cases role with
  | name => exact operand.renderName_appends
  | value => exact operand.renderValue_appends

theorem renderRow_appends (row : List Operand) : (renderRow row).Appends :=
  .map _ (renderValues_appends row)

namespace Frame

variable {α : Type}

/-- What stands around an entry of a list with commas. -/
def listed (body : α → Render String) (before after : List α) : Frame :=
  entry body commasStart commasEnd before after

/-- What stands around the update of a column of a row that is there already. -/
def duplicate (before after : List DuplicateUpdate) : Frame :=
  entry DuplicateUpdate.render (fun texts => " On Duplicate Key Update " ++ commasStart texts)
    commasEnd before after

/-- What stands around a joined table with its condition. -/
def joined (before after : List Join) : Frame :=
  entry Join.render String.join String.join before after

/-- What stands around a condition with this combinator, in parentheses. -/
def grouped (combinator : Combinator) (before after : List Predicate) : Frame :=
  (between "(" ")").holding
    (entry Predicate.renderPart (conditionsStart combinator) conditionsEnd before after)

/-- What stands around a condition with this combinator, among the conditions of a statement. -/
def filtered (combinator : Combinator) (before after : List Predicate) : Frame :=
  entry Predicate.renderPart (fun parts => " Where " ++ conditionsStart combinator parts)
    conditionsEnd before after

end Frame

section Entries

open Render.Appends

theorem Render.query_listed {α : Type} {body : α → Render String}
    (appends : ∀ a, (body a).Appends) (before : List α) (a : α) (after : List α) :
    (commas <$> (before ++ a :: after).mapM body).query
      = (Frame.listed body before after).fill (body a).query :=
  query_entry appends (id_map (body a)).symm (appends a) commas_insert before after

theorem Clause.query_columns_insert (before : List Column) (column : Column)
    (after : List Column) :
    (columns (before ++ column :: after)).query
      = (Frame.listed Column.render before after).fill column.render.query := by
  rw [query, render, renderColumns_eq_mapM]
  exact Render.query_entry Column.render_appends (id_map column.render).symm column.render_appends
    selectListText_insert before after

theorem Clause.query_joins_insert (before : List Join) (join : Join) (after : List Join) :
    (joins (before ++ join :: after)).query
      = (Frame.joined before after).fill join.render.query := by
  rw [query, render, renderJoins_eq_mapM]
  exact Render.query_entry Join.render_appends (id_map join.render).symm join.render_appends
    joins_insert before after

theorem Clause.query_insertRows_insert (before : List (List Operand)) (row : List Operand)
    (after : List (List Operand)) :
    (insertRows (before ++ row :: after)).query
      = (Frame.listed renderRow before after).fill (renderRow row).query := by
  rw [query, render, renderRows_eq_mapM]
  exact Render.query_listed renderRow_appends before row after

theorem Clause.query_duplicates_insert (before : List DuplicateUpdate) (update : DuplicateUpdate)
    (after : List DuplicateUpdate) :
    (duplicates (before ++ update :: after)).query
      = (Frame.duplicate before after).fill update.render.query := by
  have inserts (before : List String) (text : String) (after : List String) :
      duplicatesText (before ++ text :: after)
        = " On Duplicate Key Update " ++ commasStart before ++ (text ++ commasEnd after) := by
    rw [String.append_assoc, ← commas_insert]
    cases before <;> rfl
  rw [query, render, renderDuplicates_eq_mapM]
  exact Render.query_entry DuplicateUpdate.render_appends (id_map update.render).symm
    update.render_appends inserts before after

theorem Clause.query_assignments_insert (before : List (String × Operand))
    (assignment : String × Operand) (after : List (String × Operand)) :
    (assignments (before ++ assignment :: after)).query
      = (Frame.listed (fun pair => renderAssignment pair.1 pair.2) before after).fill
        (assignmentQuery assignment) := by
  have appends (pair : String × Operand) : (renderAssignment pair.1 pair.2).Appends :=
    renderAssignment_appends pair.1 pair.2
  rw [query, render, renderAssignments_eq_mapM, Render.query_listed appends,
    query_renderAssignment]

theorem Predicate.renderPart_appends (predicate : Predicate) : predicate.renderPart.Appends :=
  .map _ predicate.render_appends

theorem Clause.query_filter_insert (before : List Predicate) (predicate : Predicate)
    (after : List Predicate) :
    (filter (before ++ predicate :: after)).query
      = (Frame.filtered predicate.combinator before after).fill predicate.render.query := by
  have rendered : (filter (before ++ predicate :: after)).render
      = whereText <$> (before ++ predicate :: after).mapM Predicate.renderPart := by
    rw [render, renderWhere, renderPredicates_eq_mapM, map_eq_pure_bind]
  rw [query, rendered]
  exact Render.query_entry Predicate.renderPart_appends rfl predicate.render_appends
    (whereText_insert predicate.combinator) before after

theorem Predicate.query_group_insert (combinator : Combinator) (before : List Predicate)
    (predicate : Predicate) (after : List Predicate) :
    (group combinator (before ++ predicate :: after)).render.query
      = (Frame.grouped predicate.combinator before after).fill predicate.render.query := by
  rw [render_group, Render.query_between, Frame.grouped, Frame.fill_holding,
    renderPredicates_eq_mapM]
  rw [Render.query_entry renderPart_appends rfl predicate.render_appends
    (conditionText_insert predicate.combinator)]

theorem Operand.query_list_insert (before : List Operand) (operand : Operand)
    (after : List Operand) :
    (list (before ++ operand :: after)).renderValue.query
      = ((Frame.between "(" ")").holding (Frame.listed renderValue before after)).fill
        operand.renderValue.query := by
  have rendered : (list (before ++ operand :: after)).renderValue
      = (fun text => "(" ++ text ++ ")")
        <$> commas <$> (before ++ operand :: after).mapM renderValue := by
    simp only [renderValue, renderValues_eq_mapM, map_eq_pure_bind, bind_assoc, pure_bind]
  rw [rendered, Render.query_between, Frame.fill_holding,
    Render.query_listed renderValue_appends]

theorem Call.query_insert (role : OperandRole) (name : String) (before : List Operand)
    (operand : Operand) (after : List Operand) :
    ((Call.mk name (before ++ operand :: after)).renderAs role).query
      = ((Frame.between (name ++ "(") ")").holding
        (Frame.listed (Operand.renderAs role) before after)).fill (operand.renderAs role).query := by
  have rendered : (Call.mk name (before ++ operand :: after)).renderAs role
      = (fun text => name ++ "(" ++ text ++ ")")
        <$> commas <$> (before ++ operand :: after).mapM (Operand.renderAs role) := by
    simp only [renderAs_eq, callText, map_eq_pure_bind, bind_assoc, pure_bind]
  rw [rendered, Render.query_between, Frame.fill_holding,
    Render.query_listed (Operand.renderAs_appends role)]

theorem query_renderRow_insert (before : List Operand) (operand : Operand)
    (after : List Operand) :
    (renderRow (before ++ operand :: after)).query
      = ((Frame.between "(" ")").holding (Frame.listed Operand.renderValue before after)).fill
        operand.renderValue.query := by
  rw [← Operand.query_list_insert]
  simp only [renderRow, Operand.renderValue, map_eq_pure_bind]

end Entries

/-! ## Clauses in statements -/

namespace Select

/-- The text of a select before its select list. -/
def opening (s : Select) : String :=
  "Select" ++ (if s.distinct then " Distinct" else "") ++ " "

/-- The text of a select after its joins. -/
def afterJoins (s : Select) : Render String := do
  let conditions ← renderWhere s.predicates
  return conditions ++ groupByText s.groupBy ++ s.tail.text

/-- The text of a select after its table. -/
def afterTable (s : Select) : Render String := do
  let joins ← renderJoins s.joins
  let rest ← s.afterJoins
  return String.join joins ++ rest

/-- The text of a select after its select list. -/
def afterColumns (s : Select) : Render String := do
  let table ← s.table.render
  let rest ← s.afterTable
  return " From " ++ table ++ rest

/-- The text of a select before its table. -/
def beforeTable (s : Select) : Render String := do
  let columns ← renderColumns s.columns
  return s.opening ++ selectListText columns ++ " From "

/-- The text of a select before its joins. -/
def beforeJoins (s : Select) : Render String := do
  let columns ← renderColumns s.columns
  let table ← s.table.render
  return s.opening ++ selectListText columns ++ " From " ++ table

/-- What stands around the select list of a select. -/
def columnsFrame (s : Select) : Frame :=
  s.settings.frame (pure s.opening) s.afterColumns

/-- What stands around the table of a select. -/
def tableFrame (s : Select) : Frame :=
  s.settings.frame s.beforeTable s.afterTable

/-- What stands around the joins of a select. -/
def joinsFrame (s : Select) : Frame :=
  s.settings.frame s.beforeJoins s.afterJoins

theorem afterJoins_appends (s : Select) : s.afterJoins.Appends :=
  .bind (renderWhere_appends s.predicates) fun _ => .pure _

theorem afterTable_appends (s : Select) : s.afterTable.Appends :=
  .bind (renderJoins_appends s.joins) fun _ =>
    .bind s.afterJoins_appends fun _ => .pure _

theorem afterColumns_appends (s : Select) : s.afterColumns.Appends :=
  .bind s.table.render_appends fun _ =>
    .bind s.afterTable_appends fun _ => .pure _

theorem render_eq (s : Select) :
    s.render = s.settings.render do
      let columns ← renderColumns s.columns
      let table ← s.table.render
      let joins ← renderJoins s.joins
      let rest ← s.afterJoins
      return s.opening ++ (selectListText columns ++ (" From " ++ (table
        ++ (String.join joins ++ rest)))) := by
  cases s
  simp only [render, afterJoins, opening, renderWhere, bind_assoc, pure_bind, String.append_assoc]

theorem build_eq_columnsFrame (s : Select) :
    (Statement.select s).build = s.columnsFrame.fill (Clause.columns s.columns).query := by
  refine Settings.build_eq_fill ?_ (Clause.columns s.columns).render_appends s.afterColumns_appends
  simp only [Statement.render, render_eq, afterColumns, afterTable, Clause.render,
    Render.append_eq, map_eq_pure_bind, bind_assoc, pure_bind, String.append_assoc]

theorem build_eq_tableFrame (s : Select) :
    (Statement.select s).build = s.tableFrame.fill s.table.render.query := by
  refine Settings.build_eq_fill ?_ (Clause.table s.table).render_appends s.afterTable_appends
  simp only [Statement.render, render_eq, beforeTable, afterTable, Render.append_eq, bind_assoc,
    pure_bind, String.append_assoc]

theorem build_eq_joinsFrame (s : Select) :
    (Statement.select s).build = s.joinsFrame.fill (Clause.joins s.joins).query := by
  refine Settings.build_eq_fill ?_ (Clause.joins s.joins).render_appends s.afterJoins_appends
  simp only [Statement.render, render_eq, beforeJoins, Clause.render, Render.append_eq,
    map_eq_pure_bind, bind_assoc, pure_bind, String.append_assoc]

end Select

namespace Insert

/-- What stands around the table of an insert. -/
def tableFrame (s : Insert) : Frame :=
  s.settings.frame
    (do
      if s.rows.isEmpty then
        throw .insertWithoutRows
      return "Insert" ++ (if s.ignore then " Ignore" else "") ++ " Into ")
    (do
      let rest ← s.afterColumns
      return insertColumnsText s.columns ++ rest)

/-- What stands around the rows of an insert that has a row. -/
def rowsFrame (s : Insert) : Frame :=
  s.settings.frame
    (do
      let table ← s.table.render
      return "Insert" ++ (if s.ignore then " Ignore" else "") ++ " Into " ++ table
        ++ insertColumnsText s.columns ++ " Values ")
    (Clause.duplicates s.duplicates).render

/-- What stands around the updates of rows that are there already. -/
def duplicatesFrame (s : Insert) : Frame :=
  s.settings.frame
    (do
      let opening ← s.beforeColumns
      let rows ← renderRows s.rows
      return opening ++ insertColumnsText s.columns ++ " Values " ++ commas rows)
    (pure "")

theorem build_eq_tableFrame (s : Insert) :
    (Statement.insert s).build = s.tableFrame.fill s.table.render.query := by
  refine Settings.build_eq_fill ?_ (Clause.table s.table).render_appends
    (.bind s.afterColumns_appends fun _ => .pure _)
  simp only [Statement.render, render, afterColumns]
  cases s.rows.isEmpty with
  | true => rfl
  | false =>
      simp only [Render.append_eq, bind_assoc, pure_bind, String.append_assoc, Bool.false_eq_true,
        if_false]

theorem build_eq_rowsFrame {s : Insert} (filled : s.rows ≠ []) :
    (Statement.insert s).build = s.rowsFrame.fill (Clause.insertRows s.rows).query := by
  refine Settings.build_eq_fill ?_ (Clause.insertRows s.rows).render_appends
    (Clause.duplicates s.duplicates).render_appends
  have filled : s.rows.isEmpty = false := by simpa using filled
  simp only [Statement.render, render, Clause.render, filled, Render.append_eq, map_eq_pure_bind,
    bind_assoc, pure_bind, String.append_assoc, Bool.false_eq_true, if_false]

theorem build_eq_duplicatesFrame (s : Insert) :
    (Statement.insert s).build = s.duplicatesFrame.fill (Clause.duplicates s.duplicates).query := by
  refine Settings.build_eq_fill ?_ (Clause.duplicates s.duplicates).render_appends (.pure _)
  simp only [Statement.render, render, beforeColumns, Clause.render]
  cases s.rows.isEmpty with
  | true => rfl
  | false =>
      simp only [Render.append_eq, map_eq_pure_bind, bind_assoc, pure_bind, String.append_assoc,
        String.append_empty, Bool.false_eq_true, if_false]

end Insert

namespace Update

/-- What stands around the table of an update. -/
def tableFrame (s : Update) : Frame :=
  s.settings.frame
    (do
      if s.assignments.isEmpty then
        throw .updateWithoutAssignments
      return "Update ")
    (do
      let assignments ← renderAssignments s.assignments
      let rest ← s.afterAssignments
      return " Set " ++ commas assignments ++ rest)

theorem build_eq_tableFrame (s : Update) :
    (Statement.update s).build = s.tableFrame.fill s.table.render.query := by
  refine Settings.build_eq_fill ?_ (Clause.table s.table).render_appends
    (.bind (renderAssignments_appends s.assignments) fun _ =>
      .bind s.afterAssignments_appends fun _ => .pure _)
  simp only [Statement.render, render, afterAssignments]
  cases s.assignments.isEmpty with
  | true => rfl
  | false =>
      simp only [Render.append_eq, bind_assoc, pure_bind, String.append_assoc, Bool.false_eq_true,
        if_false]

/-- What stands around the assignments of an update that sets a column. -/
def assignmentsFrame (s : Update) : Frame :=
  s.settings.frame
    (do
      let table ← s.table.render
      return "Update " ++ table ++ " Set ")
    s.afterAssignments

theorem build_eq_assignmentsFrame {s : Update} (filled : s.assignments ≠ []) :
    (Statement.update s).build
      = s.assignmentsFrame.fill (Clause.assignments s.assignments).query := by
  have filled : s.assignments.isEmpty = false := by simpa using filled
  rw [build_eq_setFrame, setFrame, beforeAssignments, filled]
  rfl

end Update

/-- What stands around the table of a delete. -/
def Delete.tableFrame (s : Delete) : Frame :=
  s.settings.frame (pure "Delete From ")
    (do
      let conditions ← renderWhere s.predicates
      return conditions ++ s.tail.text)

theorem Delete.build_eq_tableFrame (s : Delete) :
    (Statement.delete s).build = s.tableFrame.fill s.table.render.query := by
  refine Settings.build_eq_fill ?_ (Clause.table s.table).render_appends
    (.bind (renderWhere_appends s.predicates) fun _ => .pure _)
  simp only [Statement.render, render, Render.append_eq, bind_assoc, pure_bind,
    String.append_assoc]

end SqlBuilder
