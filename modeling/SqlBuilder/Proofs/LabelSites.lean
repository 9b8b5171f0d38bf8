import SqlBuilder.Proofs.Places

set_option autoImplicit false

/-! # Places for labels

A label stands behind an entry of a select list or behind a table, and these stand in statements, in
subqueries at any depth as well. A *site* leads from a part of a statement to a label in it. The
text around the label does not depend on it, and every label of a statement has a site. -/

namespace SqlBuilder

/-! ## Sites -/

mutual

/-- A place for a label in an operand. -/
inductive Operand.LabelSite where
  | list (before : List Operand) (site : Operand.LabelSite) (after : List Operand)
  | call (site : Call.LabelSite)
  | query (site : Select.LabelSite)

/-- A place for a label in the arguments of a call. -/
inductive Call.LabelSite where
  | arg (name : String) (before : List Operand) (site : Operand.LabelSite) (after : List Operand)

/-- A place for a label in what is selected. -/
inductive ColumnExpr.LabelSite where
  | call (site : Call.LabelSite)
  | query (site : Select.LabelSite)

/-- A place for a label in an entry of a select list: the label of the entry, or one further
inside. -/
inductive Column.LabelSite where
  | own (expr : ColumnExpr)
  | expr (site : ColumnExpr.LabelSite) (label : Option String)

/-- A place for a label in a table: the label of the table, or one in its subquery. -/
inductive Table.LabelSite where
  | named (name : String)
  | derived (select : Select)
  | query (site : Select.LabelSite) (label : String)

/-- A place for a label in a joined table. -/
inductive Join.LabelSite where
  | table (kind : JoinKind) (site : Table.LabelSite) (condition : JoinCondition)

/-- A place for a label in a condition. -/
inductive Predicate.LabelSite where
  | compare (combinator : Combinator) (column : Option String) (operator : String)
    (site : Operand.LabelSite)
  | group (combinator : Combinator) (before : List Predicate) (site : Predicate.LabelSite)
    (after : List Predicate)

/-- A place for a label in a select. The clause that holds it is put in the place of that clause of
the select. -/
inductive Select.LabelSite where
  | columns (s : Select) (before : List Column) (site : Column.LabelSite) (after : List Column)
  | table (s : Select) (site : Table.LabelSite)
  | joins (s : Select) (before : List Join) (site : Join.LabelSite) (after : List Join)
  | filter (s : Select) (before : List Predicate) (site : Predicate.LabelSite)
    (after : List Predicate)

end

/-- A place for a label in a statement. -/
inductive Statement.LabelSite where
  | select (site : Select.LabelSite)
  | insertTable (s : Insert) (site : Table.LabelSite)
  | insertRow (s : Insert) (rows : List (List Operand)) (before : List Operand)
    (site : Operand.LabelSite) (after : List Operand) (others : List (List Operand))
  | duplicate (s : Insert) (before : List DuplicateUpdate) (column : String)
    (site : Operand.LabelSite) (after : List DuplicateUpdate)
  | updateTable (s : Update) (site : Table.LabelSite)
  | assignment (s : Update) (before : List (String × Operand)) (column : String)
    (site : Operand.LabelSite) (after : List (String × Operand))
  | updateFilter (s : Update) (before : List Predicate) (site : Predicate.LabelSite)
    (after : List Predicate)
  | deleteTable (s : Delete) (site : Table.LabelSite)
  | deleteFilter (s : Delete) (before : List Predicate) (site : Predicate.LabelSite)
    (after : List Predicate)

/-! ## Labels in their places -/

section Put

variable (label : String)

mutual

/-- The operand with a label in the place. -/
def Operand.LabelSite.put : Operand.LabelSite → Operand
  | .list before site after => .list (before ++ site.put :: after)
  | .call site => .call site.put
  | .query site => .query site.put

/-- The call with a label in the place. -/
def Call.LabelSite.put : Call.LabelSite → Call
  | .arg name before site after => ⟨name, before ++ site.put :: after⟩

/-- What is selected, with a label in the place. -/
def ColumnExpr.LabelSite.put : ColumnExpr.LabelSite → ColumnExpr
  | .call site => .call site.put
  | .query site => .query site.put

/-- The entry of a select list with a label in the place. -/
def Column.LabelSite.put : Column.LabelSite → Column
  | .own expr => ⟨expr, some label⟩
  | .expr site own => ⟨site.put, own⟩

/-- The table with a label in the place. -/
def Table.LabelSite.put : Table.LabelSite → Table
  | .named name => .labelled name label
  | .derived select => .derived select label
  | .query site own => .derived site.put own

/-- The joined table with a label in the place. -/
def Join.LabelSite.put : Join.LabelSite → Join
  | .table kind site condition => ⟨kind, site.put, condition⟩

/-- The condition with a label in the place. -/
def Predicate.LabelSite.put : Predicate.LabelSite → Predicate
  | .compare combinator column operator site => .compare combinator column operator site.put
  | .group combinator before site after => .group combinator (before ++ site.put :: after)

/-- The select with a label in the place. -/
def Select.LabelSite.put : Select.LabelSite → Select
  | .columns s before site after => { s with columns := before ++ site.put :: after }
  | .table s site => { s with table := site.put }
  | .joins s before site after => { s with joins := before ++ site.put :: after }
  | .filter s before site after => { s with predicates := before ++ site.put :: after }

end

/-- The statement with a label in the place. -/
def Statement.LabelSite.put : Statement.LabelSite → Statement
  | select site => .select (site.put label)
  | insertTable s site => .insert { s with table := site.put label }
  | insertRow s rows before site after others =>
    .insert { s with rows := rows ++ (before ++ site.put label :: after) :: others }
  | duplicate s before column site after =>
    .insert { s with duplicates := before ++ .assign column (site.put label) :: after }
  | updateTable s site => .update { s with table := site.put label }
  | assignment s before column site after =>
    .update { s with assignments := before ++ (column, site.put label) :: after }
  | updateFilter s before site after =>
    .update { s with predicates := before ++ site.put label :: after }
  | deleteTable s site => .delete { s with table := site.put label }
  | deleteFilter s before site after =>
    .delete { s with predicates := before ++ site.put label :: after }

end Put

/-- The combinator of the condition, whatever label is put in the place. -/
def Predicate.LabelSite.combinator : Predicate.LabelSite → Combinator
  | compare combinator _ _ _ => combinator
  | group combinator _ _ _ => combinator

theorem Predicate.LabelSite.combinator_put (site : Predicate.LabelSite) (label : String) :
    (site.put label).combinator = site.combinator := by
  cases site <;> simp only [put, Predicate.combinator, combinator]

/-! ## What stands around a label -/

/-- The mark of an alias and a label behind it. -/
def Query.ofLabel (label : String) : Query :=
  .bare (" as " ++ escape label)

/-- What stands around the joined table in a join with this condition. If there is nothing to compare
the join fails; its error names the table, so the error that is given here is another one. -/
def JoinCondition.frame (kind : JoinKind) (condition : JoinCondition) : Frame :=
  .around (.ok (.bare (" " ++ kind.keyword ++ " Join ")))
    ((" On " ++ ·) <$> condition.render "").query

/-- The text before the operand of a comparison. -/
def comparisonStart (operator : String) : Option String → String
  | some column => escape column ++ " " ++ operator ++ " "
  | none => operator ++ " "

mutual

/-- What stands around a label in an operand, where a name or a value is expected. A list does not
stand for a name. -/
def Operand.LabelSite.frame : OperandRole → Operand.LabelSite → Frame
  | .name, .list _ _ _ => .fixed (.error (.notAName "a list"))
  | .value, .list before site after =>
    ((Frame.between "(" ")").holding (.listed Operand.renderValue before after)).holding
      (site.frame .value)
  | role, .call site => site.frame role
  | _, .query site => (Frame.between "(" ")").holding site.frame

/-- What stands around a label in a call. -/
def Call.LabelSite.frame (role : OperandRole) : Call.LabelSite → Frame
  | .arg name before site after =>
    ((Frame.between (name ++ "(") ")").holding
      (.listed (Operand.renderAs role) before after)).holding (site.frame role)

/-- What stands around a label in what is selected. -/
def ColumnExpr.LabelSite.frame : ColumnExpr.LabelSite → Frame
  | .call site => site.frame .name
  | .query site => (Frame.between "(" ")").holding site.frame

/-- What stands around a label in an entry of a select list. -/
def Column.LabelSite.frame : Column.LabelSite → Frame
  | .own expr => .around expr.render.query (.ok (.bare ""))
  | .expr site label => (Frame.between "" (labelText "" label)).holding site.frame

/-- What stands around a label in a table. -/
def Table.LabelSite.frame : Table.LabelSite → Frame
  | .named name => .between (escape name) ""
  | .derived select => .around (Clause.subquery select).query (.ok (.bare ""))
  | .query site label =>
    (Frame.between "(" (")" ++ (" as " ++ escape label))).holding site.frame

/-- What stands around a label in a joined table. -/
def Join.LabelSite.frame : Join.LabelSite → Frame
  | .table kind site condition => (condition.frame kind).holding site.frame

/-- What stands around a label in a condition. -/
def Predicate.LabelSite.frame : Predicate.LabelSite → Frame
  | .compare _ column operator site =>
    (Frame.between (comparisonStart operator column) "").holding (site.frame .value)
  | .group _ before site after => (Frame.grouped site.combinator before after).holding site.frame

/-- What stands around a label in a select. -/
def Select.LabelSite.frame : Select.LabelSite → Frame
  | .columns s before site after =>
    (s.columnsFrame.holding (.listed Column.render before after)).holding site.frame
  | .table s site => s.tableFrame.holding site.frame
  | .joins s before site after => (s.joinsFrame.holding (.joined before after)).holding site.frame
  | .filter s before site after =>
    (s.frame.holding (.filtered site.combinator before after)).holding site.frame

end

/-- What stands around a label in a statement. -/
def Statement.LabelSite.frame : Statement.LabelSite → Frame
  | select site => site.frame
  | insertTable s site => s.tableFrame.holding site.frame
  | insertRow s rows before site after others =>
    (s.rowsFrame.holding (.listed renderRow rows others)).holding
      (((Frame.between "(" ")").holding (.listed Operand.renderValue before after)).holding
        (site.frame .value))
  | duplicate s before column site after =>
    (s.duplicatesFrame.holding (.duplicate before after)).holding
      ((Frame.between (escape column ++ " = ") "").holding (site.frame .value))
  | updateTable s site => s.tableFrame.holding site.frame
  | assignment s before column site after =>
    (s.assignmentsFrame.holding
      (.listed (fun pair => renderAssignment pair.1 pair.2) before after)).holding
        ((Frame.between (escape column ++ " = ") "").holding (site.frame .value))
  | updateFilter s before site after =>
    (s.frame.holding (.filtered site.combinator before after)).holding site.frame
  | deleteTable s site => s.tableFrame.holding site.frame
  | deleteFilter s before site after =>
    (s.frame.holding (.filtered site.combinator before after)).holding site.frame

/-! ## What is written for a label -/

namespace Frame

/-- What stands in a frame that stands in another one. -/
theorem toOption_holding {outer inner : Frame} {whole part hole : Except QueryError Query}
    (here : whole = outer.fill part) (there : part.toOption = (inner.fill hole).toOption) :
    whole.toOption = ((outer.holding inner).fill hole).toOption := by
  rw [here, fill_holding, outer.toOption_fill there]

theorem fill_before (before : Except QueryError Query) (text : String) :
    (around before (.ok (.bare ""))).fill (.ok (.bare text))
      = before.map fun query => query ++ .bare text := by
  rcases before with _ | query
  · rfl
  · show Except.ok _ = Except.ok _
    simp [Query.append_eq, Query.bare]

end Frame

theorem Clause.query_subquery_eq_fill (select : Select) :
    (Clause.subquery select).query
      = (Frame.between "(" ")").fill (Statement.select select).build := by
  rw [query_subquery]
  cases (Statement.select select).build <;> rfl

theorem Column.query_own (expr : ColumnExpr) (label : String) :
    (Column.mk expr (some label)).render.query
      = expr.render.query.map fun query => query ++ .ofLabel label := by
  have rendered : (Column.mk expr (some label)).render
      = (fun sql => sql ++ " as " ++ escape label) <$> expr.render := by
    simp only [render, labelText, map_eq_pure_bind]
  rw [rendered, Render.query_map]
  cases expr.render.query with
  | error e => rfl
  | ok query => simp [Except.map, Query.ofLabel, Query.append_eq, Query.bare, String.append_assoc]

theorem Column.query_expr (expr : ColumnExpr) (label : Option String) :
    (Column.mk expr label).render.query
      = (Frame.between "" (labelText "" label)).fill expr.render.query := by
  rw [← Render.query_between]
  cases label with
  | none => simp only [render, labelText, map_eq_pure_bind, String.empty_append, String.append_empty]
  | some label =>
      simp only [render, labelText, map_eq_pure_bind, String.empty_append, String.append_assoc]

theorem Table.query_derived (select : Select) (label : String) :
    (Table.derived select label).render.query
      = (Clause.subquery select).query.map fun query => query ++ .ofLabel label := by
  have rendered : (Table.derived select label).render
      = (fun sql => sql ++ " as " ++ escape label) <$> (Clause.subquery select).render := by
    simp only [render, Clause.render, map_eq_pure_bind]
  rw [rendered, Render.query_map, Clause.query]
  cases (Clause.subquery select).render.query with
  | error e => rfl
  | ok query => simp [Except.map, Query.ofLabel, Query.append_eq, Query.bare, String.append_assoc]

theorem Table.query_subquery (select : Select) (label : String) :
    (Table.derived select label).render.query
      = (Frame.between "(" (")" ++ (" as " ++ escape label))).fill
        (Statement.select select).build := by
  rw [query_derived, Clause.query_subquery_eq_fill]
  cases (Statement.select select).build with
  | error e => rfl
  | ok query =>
      show Except.ok _ = Except.ok _
      simp only [Query.ofLabel, Query.append_eq, Query.bare, String.append_assoc, List.append_nil]

/-- The comparisons of a join that has one do not depend on its table. -/
theorem JoinCondition.render_of_ne {condition : JoinCondition} (compares : condition ≠ .several [])
    (table : String) : condition.render table = condition.render "" := by
  rcases condition with ⟨column, operator, key⟩ | ⟨_ | ⟨first, rest⟩⟩
  · rfl
  · exact absurd rfl compares
  · rfl

theorem Join.toOption_query (kind : JoinKind) (table : Table) (condition : JoinCondition) :
    (Join.mk kind table condition).render.query.toOption
      = ((condition.frame kind).fill table.render.query).toOption := by
  by_cases compares : condition = .several []
  · -- neither side yields anything, only the error names the table
    subst compares
    have appends (text : String) : Render.Appends (do
        let condition ← (JoinCondition.several []).render text
        return " " ++ kind.keyword ++ " Join " ++ text ++ " On " ++ condition) :=
      .bind (.throw _) fun _ => .pure _
    rw [render, Render.query_bind _ appends]
    cases table.render.query <;> rfl
  · have rendered : (Join.mk kind table condition).render
        = pure (" " ++ kind.keyword ++ " Join ")
          ++ (table.render ++ (" On " ++ ·) <$> condition.render "") := by
      simp only [render, JoinCondition.render_of_ne compares, Render.append_eq, map_eq_pure_bind,
        bind_assoc, pure_bind, String.append_assoc]
    have appends : ((" On " ++ ·) <$> condition.render "").Appends :=
      .map _ (condition.render_appends "")
    rw [Render.query_eq_fill rendered table.render_appends appends]
    rfl

theorem Predicate.query_compare (combinator : Combinator) (column : Option String)
    (operator : String) (value : Operand) :
    (Predicate.compare combinator column operator value).render.query
      = (Frame.between (comparisonStart operator column) "").fill value.renderValue.query := by
  rw [← Render.query_between]
  cases column <;> simp only [render, comparisonStart, map_eq_pure_bind, String.append_empty]

theorem query_assignment (column : String) (value : Operand) :
    (renderAssignment column value).query
      = (Frame.between (escape column ++ " = ") "").fill value.renderValue.query := by
  rw [← Render.query_between]
  simp only [renderAssignment, map_eq_pure_bind, String.append_empty]

section Written

variable (label : String)

mutual

theorem Operand.LabelSite.toOption_put : ∀ (role : OperandRole) (site : Operand.LabelSite),
    ((site.put label).renderAs role).query.toOption
      = ((site.frame role).fill (.ok (.ofLabel label))).toOption
  | .name, .list before site after => by
      simp only [Operand.LabelSite.put, Operand.LabelSite.frame, Operand.renderAs, Operand.renderName]
      rfl
  | .value, .list before site after => by
      rw [Operand.LabelSite.put, Operand.LabelSite.frame]
      exact Frame.toOption_holding (Operand.query_list_insert before (site.put label) after)
        (site.toOption_put .value)
  | .name, .call site => by
      simp only [Operand.LabelSite.put, Operand.LabelSite.frame, Operand.renderAs, Operand.renderName]
      exact site.toOption_put .name
  | .value, .call site => by
      simp only [Operand.LabelSite.put, Operand.LabelSite.frame, Operand.renderAs, Operand.renderValue]
      exact site.toOption_put .value
  | .name, .query site => by
      simp only [Operand.LabelSite.put, Operand.LabelSite.frame, Operand.renderAs, Operand.renderName]
      exact Frame.toOption_holding (Clause.query_subquery_eq_fill (site.put label))
        site.toOption_put
  | .value, .query site => by
      simp only [Operand.LabelSite.put, Operand.LabelSite.frame, Operand.renderAs, Operand.renderValue]
      exact Frame.toOption_holding (Clause.query_subquery_eq_fill (site.put label))
        site.toOption_put

theorem Call.LabelSite.toOption_put : ∀ (role : OperandRole) (site : Call.LabelSite),
    ((site.put label).renderAs role).query.toOption
      = ((site.frame role).fill (.ok (.ofLabel label))).toOption
  | role, .arg name before site after => by
      rw [Call.LabelSite.put, Call.LabelSite.frame]
      exact Frame.toOption_holding (Call.query_insert role name before (site.put label) after)
        (site.toOption_put role)

theorem ColumnExpr.LabelSite.toOption_put : ∀ site : ColumnExpr.LabelSite,
    (site.put label).render.query.toOption = (site.frame.fill (.ok (.ofLabel label))).toOption
  | .call site => by
      simp only [ColumnExpr.LabelSite.put, ColumnExpr.LabelSite.frame, ColumnExpr.render]
      exact site.toOption_put .name
  | .query site => by
      simp only [ColumnExpr.LabelSite.put, ColumnExpr.LabelSite.frame, ColumnExpr.render]
      exact Frame.toOption_holding (Clause.query_subquery_eq_fill (site.put label))
        site.toOption_put

theorem Column.LabelSite.toOption_put : ∀ site : Column.LabelSite,
    (site.put label).render.query.toOption = (site.frame.fill (.ok (.ofLabel label))).toOption
  | .own expr => by
      rw [Column.LabelSite.put, Column.LabelSite.frame, Column.query_own, Query.ofLabel,
        Frame.fill_before]
  | .expr site own => by
      rw [Column.LabelSite.put, Column.LabelSite.frame]
      exact Frame.toOption_holding (Column.query_expr (site.put label) own) site.toOption_put

theorem Table.LabelSite.toOption_put : ∀ site : Table.LabelSite,
    (site.put label).render.query.toOption = (site.frame.fill (.ok (.ofLabel label))).toOption
  | .named name => by
      simp only [Table.LabelSite.put, Table.LabelSite.frame, Table.render, Frame.between,
        Query.ofLabel, Frame.fill_before]
      simp [Render.query_pure, Except.map, Query.append_eq, Query.bare, String.append_assoc]
  | .derived select => by
      rw [Table.LabelSite.put, Table.LabelSite.frame, Table.query_derived, Query.ofLabel,
        Frame.fill_before]
  | .query site own => by
      rw [Table.LabelSite.put, Table.LabelSite.frame]
      exact Frame.toOption_holding (Table.query_subquery (site.put label) own) site.toOption_put

theorem Join.LabelSite.toOption_put : ∀ site : Join.LabelSite,
    (site.put label).render.query.toOption = (site.frame.fill (.ok (.ofLabel label))).toOption
  | .table kind site condition => by
      rw [Join.LabelSite.put, Join.LabelSite.frame, Join.toOption_query, Frame.fill_holding]
      exact (condition.frame kind).toOption_fill site.toOption_put

theorem Predicate.LabelSite.toOption_put : ∀ site : Predicate.LabelSite,
    (site.put label).render.query.toOption = (site.frame.fill (.ok (.ofLabel label))).toOption
  | .compare combinator column operator site => by
      rw [Predicate.LabelSite.put, Predicate.LabelSite.frame]
      exact Frame.toOption_holding
        (Predicate.query_compare combinator column operator (site.put label))
        (site.toOption_put .value)
  | .group combinator before site after => by
      rw [Predicate.LabelSite.put, Predicate.LabelSite.frame, ← site.combinator_put label]
      exact Frame.toOption_holding
        (Predicate.query_group_insert combinator before (site.put label) after) site.toOption_put

theorem Select.LabelSite.toOption_put : ∀ site : Select.LabelSite,
    (Statement.select (site.put label)).build.toOption
      = (site.frame.fill (.ok (.ofLabel label))).toOption
  | .columns s before site after => by
      rw [Select.LabelSite.put, Select.LabelSite.frame]
      refine Frame.toOption_holding ?_ site.toOption_put
      rw [Select.build_eq_columnsFrame, Clause.query_columns_insert, Frame.fill_holding]
      rfl
  | .table s site => by
      rw [Select.LabelSite.put, Select.LabelSite.frame]
      exact Frame.toOption_holding (Select.build_eq_tableFrame _) site.toOption_put
  | .joins s before site after => by
      rw [Select.LabelSite.put, Select.LabelSite.frame]
      refine Frame.toOption_holding ?_ site.toOption_put
      rw [Select.build_eq_joinsFrame, Clause.query_joins_insert, Frame.fill_holding]
      rfl
  | .filter s before site after => by
      rw [Select.LabelSite.put, Select.LabelSite.frame, ← site.combinator_put label]
      refine Frame.toOption_holding ?_ site.toOption_put
      rw [Select.build_eq, Clause.query_filter_insert, Frame.fill_holding]
      rfl

end

theorem Statement.LabelSite.toOption_put (site : Statement.LabelSite) :
    (site.put label).build.toOption = (site.frame.fill (.ok (.ofLabel label))).toOption := by
  cases site with
  | select site => exact site.toOption_put label
  | insertTable s site =>
      exact Frame.toOption_holding (Insert.build_eq_tableFrame _) (site.toOption_put label)
  | insertRow s rows before site after others =>
      rw [put, frame]
      refine Frame.toOption_holding ?_
        (Frame.toOption_holding (query_renderRow_insert ..) (site.toOption_put label .value))
      rw [Insert.build_eq_rowsFrame (by simp), Clause.query_insertRows_insert, Frame.fill_holding]
      rfl
  | duplicate s before column site after =>
      rw [put, frame]
      refine Frame.toOption_holding ?_
        (Frame.toOption_holding (query_assignment column _) (site.toOption_put label .value))
      rw [Insert.build_eq_duplicatesFrame, Clause.query_duplicates_insert, Frame.fill_holding]
      rfl
  | updateTable s site =>
      exact Frame.toOption_holding (Update.build_eq_tableFrame _) (site.toOption_put label)
  | assignment s before column site after =>
      rw [put, frame]
      refine Frame.toOption_holding ?_
        (Frame.toOption_holding (query_assignment column _) (site.toOption_put label .value))
      rw [Update.build_eq_assignmentsFrame (by simp), Clause.query_assignments_insert,
        Frame.fill_holding, query_renderAssignment]
      rfl
  | updateFilter s before site after =>
      rw [put, frame, ← site.combinator_put label]
      refine Frame.toOption_holding ?_ (site.toOption_put label)
      rw [Update.build_eq, Clause.query_filter_insert, Frame.fill_holding]
      rfl
  | deleteTable s site =>
      exact Frame.toOption_holding (Delete.build_eq_tableFrame _) (site.toOption_put label)
  | deleteFilter s before site after =>
      rw [put, frame, ← site.combinator_put label]
      refine Frame.toOption_holding ?_ (site.toOption_put label)
      rw [Delete.build_eq, Clause.query_filter_insert, Frame.fill_holding]
      rfl

end Written

/-! ## All labels of a statement -/

mutual

/-- The labels in an operand. -/
def Operand.labels : Operand → List String
  | .value _ => []
  | .list items => operandLabels items
  | .raw _ => []
  | .call call => call.labels
  | .query select => select.labels

/-- The labels in several operands. -/
def operandLabels : List Operand → List String
  | [] => []
  | operand :: rest => operand.labels ++ operandLabels rest

/-- The labels in the arguments of a call. -/
def Call.labels : Call → List String
  | ⟨_, args⟩ => operandLabels args

/-- The labels in what is selected. -/
def ColumnExpr.labels : ColumnExpr → List String
  | .name _ => []
  | .raw _ => []
  | .call call => call.labels
  | .query select => select.labels

/-- The labels in an entry of a select list, with its own. -/
def Column.labels : Column → List String
  | ⟨expr, label⟩ => expr.labels ++ label.toList

/-- The labels in a select list. -/
def columnLabels : List Column → List String
  | [] => []
  | column :: rest => column.labels ++ columnLabels rest

/-- The labels in a table, with its own. -/
def Table.labels : Table → List String
  | .named _ => []
  | .labelled _ label => [label]
  | .derived select label => select.labels ++ [label]

/-- The labels in a joined table. -/
def Join.labels : Join → List String
  | ⟨_, table, _⟩ => table.labels

/-- The labels in joined tables. -/
def joinLabels : List Join → List String
  | [] => []
  | join :: rest => join.labels ++ joinLabels rest

/-- The labels in a condition. -/
def Predicate.labels : Predicate → List String
  | .compare _ _ _ value => value.labels
  | .raw _ _ => []
  | .group _ predicates => predicateLabels predicates

/-- The labels in several conditions. -/
def predicateLabels : List Predicate → List String
  | [] => []
  | predicate :: rest => predicate.labels ++ predicateLabels rest

/-- The labels in a select. -/
def Select.labels : Select → List String
  | ⟨_, table, columns, _, joins, predicates, _, _⟩ =>
    columnLabels columns ++ table.labels ++ joinLabels joins ++ predicateLabels predicates

end

/-- The labels in the update of a row that is there already. -/
def DuplicateUpdate.labels : DuplicateUpdate → List String
  | assign _ value => value.labels
  | fromValues _ => []

/-- The labels in a statement. -/
def Statement.labels : Statement → List String
  | select s => s.labels
  | insert s =>
    s.table.labels ++ s.rows.flatMap operandLabels ++ s.duplicates.flatMap DuplicateUpdate.labels
  | update s =>
    s.table.labels ++ s.assignments.flatMap (fun pair => pair.2.labels)
      ++ predicateLabels s.predicates
  | delete s => s.table.labels ++ predicateLabels s.predicates

/-- A place in a list is in the place of its first entry or in the rest of the list. -/
theorem exists_place_cons {α σ : Type} {put : σ → α} {first : α} {rest : List α}
    (place : (∃ site, put site = first)
      ∨ ∃ before site after, before ++ put site :: after = rest) :
    ∃ before site after, before ++ put site :: after = first :: rest := by
  rcases place with ⟨site, rfl⟩ | ⟨before, site, after, rfl⟩
  · exact ⟨[], site, rest, rfl⟩
  · exact ⟨first :: before, site, after, rfl⟩

section Sites

variable {label : String}

mutual

theorem Operand.exists_site : ∀ operand : Operand, label ∈ operand.labels →
    ∃ site : Operand.LabelSite, site.put label = operand
  | .value _, mem => by simp [Operand.labels] at mem
  | .list items, mem => by
      rw [Operand.labels] at mem
      obtain ⟨before, site, after, rfl⟩ := exists_operandSite items mem
      exact ⟨.list before site after, by rw [Operand.LabelSite.put]⟩
  | .raw _, mem => by simp [Operand.labels] at mem
  | .call call, mem => by
      rw [Operand.labels] at mem
      obtain ⟨site, rfl⟩ := Call.exists_site call mem
      exact ⟨.call site, by rw [Operand.LabelSite.put]⟩
  | .query select, mem => by
      rw [Operand.labels] at mem
      obtain ⟨site, rfl⟩ := Select.exists_site select mem
      exact ⟨.query site, by rw [Operand.LabelSite.put]⟩

theorem exists_operandSite : ∀ operands : List Operand, label ∈ operandLabels operands →
    ∃ (before : List Operand) (site : Operand.LabelSite) (after : List Operand),
      before ++ site.put label :: after = operands
  | [], mem => by simp [operandLabels] at mem
  | operand :: rest, mem => by
      rw [operandLabels, List.mem_append] at mem
      exact exists_place_cons (mem.imp (Operand.exists_site operand) (exists_operandSite rest))

theorem Call.exists_site : ∀ call : Call, label ∈ call.labels →
    ∃ site : Call.LabelSite, site.put label = call
  | ⟨name, args⟩, mem => by
      rw [Call.labels] at mem
      obtain ⟨before, site, after, rfl⟩ := exists_operandSite args mem
      exact ⟨.arg name before site after, by rw [Call.LabelSite.put]⟩

theorem ColumnExpr.exists_site : ∀ expr : ColumnExpr, label ∈ expr.labels →
    ∃ site : ColumnExpr.LabelSite, site.put label = expr
  | .name _, mem => by simp [ColumnExpr.labels] at mem
  | .raw _, mem => by simp [ColumnExpr.labels] at mem
  | .call call, mem => by
      rw [ColumnExpr.labels] at mem
      obtain ⟨site, rfl⟩ := Call.exists_site call mem
      exact ⟨.call site, by rw [ColumnExpr.LabelSite.put]⟩
  | .query select, mem => by
      rw [ColumnExpr.labels] at mem
      obtain ⟨site, rfl⟩ := Select.exists_site select mem
      exact ⟨.query site, by rw [ColumnExpr.LabelSite.put]⟩

theorem Column.exists_site : ∀ column : Column, label ∈ column.labels →
    ∃ site : Column.LabelSite, site.put label = column
  | ⟨expr, own⟩, mem => by
      rw [Column.labels, List.mem_append, Option.mem_toList] at mem
      rcases mem with inside | rfl
      · obtain ⟨site, rfl⟩ := ColumnExpr.exists_site expr inside
        exact ⟨.expr site own, by rw [Column.LabelSite.put]⟩
      · exact ⟨.own expr, by rw [Column.LabelSite.put]⟩

theorem exists_columnSite : ∀ columns : List Column, label ∈ columnLabels columns →
    ∃ (before : List Column) (site : Column.LabelSite) (after : List Column),
      before ++ site.put label :: after = columns
  | [], mem => by simp [columnLabels] at mem
  | column :: rest, mem => by
      rw [columnLabels, List.mem_append] at mem
      exact exists_place_cons (mem.imp (Column.exists_site column) (exists_columnSite rest))

theorem Table.exists_site : ∀ table : Table, label ∈ table.labels →
    ∃ site : Table.LabelSite, site.put label = table
  | .named _, mem => by simp [Table.labels] at mem
  | .labelled name own, mem => by
      rw [Table.labels, List.mem_singleton] at mem
      exact ⟨.named name, by rw [Table.LabelSite.put, mem]⟩
  | .derived select own, mem => by
      rw [Table.labels, List.mem_append, List.mem_singleton] at mem
      rcases mem with inside | rfl
      · obtain ⟨site, rfl⟩ := Select.exists_site select inside
        exact ⟨.query site own, by rw [Table.LabelSite.put]⟩
      · exact ⟨.derived select, by rw [Table.LabelSite.put]⟩

theorem Join.exists_site : ∀ join : Join, label ∈ join.labels →
    ∃ site : Join.LabelSite, site.put label = join
  | ⟨kind, table, condition⟩, mem => by
      rw [Join.labels] at mem
      obtain ⟨site, rfl⟩ := Table.exists_site table mem
      exact ⟨.table kind site condition, by rw [Join.LabelSite.put]⟩

theorem exists_joinSite : ∀ joins : List Join, label ∈ joinLabels joins →
    ∃ (before : List Join) (site : Join.LabelSite) (after : List Join),
      before ++ site.put label :: after = joins
  | [], mem => by simp [joinLabels] at mem
  | join :: rest, mem => by
      rw [joinLabels, List.mem_append] at mem
      exact exists_place_cons (mem.imp (Join.exists_site join) (exists_joinSite rest))

theorem Predicate.exists_site : ∀ predicate : Predicate, label ∈ predicate.labels →
    ∃ site : Predicate.LabelSite, site.put label = predicate
  | .compare combinator column operator value, mem => by
      rw [Predicate.labels] at mem
      obtain ⟨site, rfl⟩ := Operand.exists_site value mem
      exact ⟨.compare combinator column operator site, by rw [Predicate.LabelSite.put]⟩
  | .raw _ _, mem => by simp [Predicate.labels] at mem
  | .group combinator predicates, mem => by
      rw [Predicate.labels] at mem
      obtain ⟨before, site, after, rfl⟩ := exists_predicateSite predicates mem
      exact ⟨.group combinator before site after, by rw [Predicate.LabelSite.put]⟩

theorem exists_predicateSite : ∀ predicates : List Predicate, label ∈ predicateLabels predicates →
    ∃ (before : List Predicate) (site : Predicate.LabelSite) (after : List Predicate),
      before ++ site.put label :: after = predicates
  | [], mem => by simp [predicateLabels] at mem
  | predicate :: rest, mem => by
      rw [predicateLabels, List.mem_append] at mem
      exact exists_place_cons (mem.imp (Predicate.exists_site predicate) (exists_predicateSite rest))

theorem Select.exists_site : ∀ select : Select, label ∈ select.labels →
    ∃ site : Select.LabelSite, site.put label = select
  | ⟨settings, table, columns, distinct, joins, predicates, groupBy, tail⟩, mem => by
      simp only [Select.labels, List.mem_append, or_assoc] at mem
      rcases mem with inColumns | inTable | inJoins | inPredicates
      · obtain ⟨before, site, after, rfl⟩ := exists_columnSite columns inColumns
        exact ⟨.columns ⟨settings, table, [], distinct, joins, predicates, groupBy, tail⟩ before
          site after, by rw [Select.LabelSite.put]⟩
      · obtain ⟨site, rfl⟩ := Table.exists_site table inTable
        exact ⟨.table ⟨settings, .named "", columns, distinct, joins, predicates, groupBy, tail⟩
          site, by rw [Select.LabelSite.put]⟩
      · obtain ⟨before, site, after, rfl⟩ := exists_joinSite joins inJoins
        exact ⟨.joins ⟨settings, table, columns, distinct, [], predicates, groupBy, tail⟩ before
          site after, by rw [Select.LabelSite.put]⟩
      · obtain ⟨before, site, after, rfl⟩ := exists_predicateSite predicates inPredicates
        exact ⟨.filter ⟨settings, table, columns, distinct, joins, [], groupBy, tail⟩ before
          site after, by rw [Select.LabelSite.put]⟩

end

/-- Every label of a statement has a site. -/
theorem Statement.exists_site (s : Statement) (mem : label ∈ s.labels) :
    ∃ site : Statement.LabelSite, site.put label = s := by
  cases s with
  | select s =>
      obtain ⟨site, rfl⟩ := Select.exists_site s mem
      exact ⟨.select site, rfl⟩
  | insert s =>
      obtain ⟨settings, table, columns, rows, duplicates, ignore⟩ := s
      simp only [labels, List.mem_append, List.mem_flatMap, or_assoc] at mem
      rcases mem with inTable | ⟨row, given, inRow⟩ | ⟨update, given, inUpdate⟩
      · obtain ⟨site, rfl⟩ := Table.exists_site table inTable
        exact ⟨.insertTable ⟨settings, .named "", columns, rows, duplicates, ignore⟩ site, rfl⟩
      · obtain ⟨first, others, rfl⟩ := List.append_of_mem given
        obtain ⟨before, site, after, rfl⟩ := exists_operandSite row inRow
        exact ⟨.insertRow ⟨settings, table, columns, [], duplicates, ignore⟩ first before site after
          others, rfl⟩
      · obtain ⟨before, after, rfl⟩ := List.append_of_mem given
        cases update with
        | assign column value =>
            obtain ⟨site, rfl⟩ := Operand.exists_site value inUpdate
            exact ⟨.duplicate ⟨settings, table, columns, rows, [], ignore⟩ before column site after,
              rfl⟩
        | fromValues column => cases inUpdate
  | update s =>
      obtain ⟨settings, table, assignments, predicates, tail⟩ := s
      simp only [labels, List.mem_append, List.mem_flatMap, or_assoc] at mem
      rcases mem with inTable | ⟨⟨column, value⟩, given, inValue⟩ | inPredicates
      · obtain ⟨site, rfl⟩ := Table.exists_site table inTable
        exact ⟨.updateTable ⟨settings, .named "", assignments, predicates, tail⟩ site, rfl⟩
      · obtain ⟨before, after, rfl⟩ := List.append_of_mem given
        obtain ⟨site, rfl⟩ := Operand.exists_site value inValue
        exact ⟨.assignment ⟨settings, table, [], predicates, tail⟩ before column site after, rfl⟩
      · obtain ⟨before, site, after, rfl⟩ := exists_predicateSite predicates inPredicates
        exact ⟨.updateFilter ⟨settings, table, assignments, [], tail⟩ before site after, rfl⟩
  | delete s =>
      obtain ⟨settings, table, predicates, tail⟩ := s
      simp only [labels, List.mem_append] at mem
      rcases mem with inTable | inPredicates
      · obtain ⟨site, rfl⟩ := Table.exists_site table inTable
        exact ⟨.deleteTable ⟨settings, .named "", predicates, tail⟩ site, rfl⟩
      · obtain ⟨before, site, after, rfl⟩ := exists_predicateSite predicates inPredicates
        exact ⟨.deleteFilter ⟨settings, table, [], tail⟩ before site after, rfl⟩

end Sites

end SqlBuilder
