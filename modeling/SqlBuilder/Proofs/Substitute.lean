import SqlBuilder.Proofs.Slots

set_option autoImplicit false

/-! # Bound positions

The scalars of a statement that are bound when it is rendered: those that stand where a value is
expected, and the parameters of fragments other than the names. `substitute` replaces the scalars in
these positions and nothing else, and `scalars` lists them in the order of the text. Two statements
are equal except for such scalars if they are equal with all of them *erased*. -/

namespace SqlBuilder

/-! ## Fragments -/

/-- Replaces the parameters that are not taken by names. -/
def substituteParams (σ : Value → Value) : List Slot → List Value → List Value
  | [], params => params.map σ
  | _ :: _, [] => []
  | .value :: slots, v :: params => σ v :: substituteParams σ slots params
  | .name :: slots, v :: params => v :: substituteParams σ slots params

/-- The parameters that are not taken by names. -/
def boundParams : List Slot → List Value → List Value
  | [], params => params
  | _ :: _, [] => []
  | .value :: slots, v :: params => v :: boundParams slots params
  | .name :: slots, _ :: params => boundParams slots params

/-- A fragment whose bound parameters are replaced; the names stay. -/
def Fragment.substitute (σ : Value → Value) (fragment : Fragment) : Fragment :=
  { fragment with params := substituteParams σ (slots fragment.sql.toList) fragment.params }

/-- The parameters of a fragment that are bound. -/
def Fragment.scalars (fragment : Fragment) : List Value :=
  boundParams (slots fragment.sql.toList) fragment.params

/-- Settings whose override, if there is one, has its bound parameters replaced. -/
def Settings.substitute (σ : Value → Value) (settings : Settings) : Settings :=
  { settings with override := settings.override.map (Fragment.substitute σ) }

/-- An override takes the place of the clauses. -/
def Settings.scalars (settings : Settings) (clauses : List Value) : List Value :=
  match settings.override with
  | some fragment => fragment.scalars
  | none => clauses

/-! ## Joins -/

/-- The right side of a comparison between columns, with the parameters of its fragment replaced. -/
def JoinKey.substitute (σ : Value → Value) : JoinKey → JoinKey
  | column name => column name
  | raw fragment => raw (fragment.substitute σ)

/-- The scalars of the right side of a comparison between columns. -/
def JoinKey.scalars : JoinKey → List Value
  | column _ => []
  | raw fragment => fragment.scalars

/-- A comparison in the condition of a join: only its right side holds scalars. -/
def OnCondition.substitute (σ : Value → Value) (condition : OnCondition) : OnCondition :=
  { condition with key := condition.key.substitute σ }

/-- The condition of a join with its scalars replaced. -/
def JoinCondition.substitute (σ : Value → Value) : JoinCondition → JoinCondition
  | keys column operator key => keys column operator (key.substitute σ)
  | several conditions => several (conditions.map (OnCondition.substitute σ))

/-- The scalars of the condition of a join. -/
def JoinCondition.scalars : JoinCondition → List Value
  | keys _ _ key => key.scalars
  | several conditions => conditions.flatMap fun condition => condition.key.scalars

/-! ## Selects and what they hold -/

mutual

/-- Where a name is expected a scalar is not bound, and a list is not rendered. -/
def Operand.substituteName (σ : Value → Value) : Operand → Operand
  | .value v => .value v
  | .list items => .list (substituteValues σ items)
  | .raw fragment => .raw (fragment.substitute σ)
  | .call call => .call (call.substituteName σ)
  | .query select => .query (select.substitute σ)

/-- A call whose arguments are names. -/
def Call.substituteName (σ : Value → Value) : Call → Call
  | ⟨name, args⟩ => ⟨name, substituteNames σ args⟩

/-- Operands where names are expected. -/
def substituteNames (σ : Value → Value) : List Operand → List Operand
  | [] => []
  | operand :: rest => operand.substituteName σ :: substituteNames σ rest

/-- Where a value is expected a scalar is bound, and so it is replaced. -/
def Operand.substituteValue (σ : Value → Value) : Operand → Operand
  | .value v => .value (σ v)
  | .list items => .list (substituteValues σ items)
  | .raw fragment => .raw (fragment.substitute σ)
  | .call call => .call (call.substituteValue σ)
  | .query select => .query (select.substitute σ)

/-- A call whose arguments are values. -/
def Call.substituteValue (σ : Value → Value) : Call → Call
  | ⟨name, args⟩ => ⟨name, substituteValues σ args⟩

/-- Operands where values are expected. -/
def substituteValues (σ : Value → Value) : List Operand → List Operand
  | [] => []
  | operand :: rest => operand.substituteValue σ :: substituteValues σ rest

/-- What is selected, with its scalars replaced. -/
def ColumnExpr.substitute (σ : Value → Value) : ColumnExpr → ColumnExpr
  | .name name => .name name
  | .raw fragment => .raw (fragment.substitute σ)
  | .call call => .call (call.substituteName σ)
  | .query select => .query (select.substitute σ)

/-- An entry of a select list; its label stays. -/
def Column.substitute (σ : Value → Value) : Column → Column
  | ⟨expr, label⟩ => ⟨expr.substitute σ, label⟩

/-- The entries of a select list. -/
def substituteColumns (σ : Value → Value) : List Column → List Column
  | [] => []
  | column :: rest => column.substitute σ :: substituteColumns σ rest

/-- A table: only a derived one holds scalars. -/
def Table.substitute (σ : Value → Value) : Table → Table
  | .named name => .named name
  | .labelled name label => .labelled name label
  | .derived select label => .derived (select.substitute σ) label

/-- A joined table with its condition. -/
def Join.substitute (σ : Value → Value) : Join → Join
  | ⟨kind, table, condition⟩ => ⟨kind, table.substitute σ, condition.substitute σ⟩

/-- Joined tables. -/
def substituteJoins (σ : Value → Value) : List Join → List Join
  | [] => []
  | join :: rest => join.substitute σ :: substituteJoins σ rest

/-- A predicate whose column and operator stay. -/
def Predicate.substitute (σ : Value → Value) : Predicate → Predicate
  | .compare combinator column operator value =>
    .compare combinator column operator (value.substituteValue σ)
  | .raw combinator fragment => .raw combinator (fragment.substitute σ)
  | .group combinator predicates => .group combinator (substitutePredicates σ predicates)

/-- The predicates of a condition. -/
def substitutePredicates (σ : Value → Value) : List Predicate → List Predicate
  | [] => []
  | predicate :: rest => predicate.substitute σ :: substitutePredicates σ rest

/-- A select with the scalars in all its clauses replaced, or those of its override. -/
def Select.substitute (σ : Value → Value) : Select → Select
  | ⟨settings, table, columns, distinct, joins, predicates, groupBy, tail⟩ =>
    ⟨settings.substitute σ, table.substitute σ, substituteColumns σ columns, distinct,
      substituteJoins σ joins, substitutePredicates σ predicates, groupBy, tail⟩

end

theorem Predicate.combinator_substitute (σ : Value → Value) (predicate : Predicate) :
    (predicate.substitute σ).combinator = predicate.combinator := by
  cases predicate <;> rfl

mutual

/-- The scalars of an operand where a name is expected. -/
def Operand.nameScalars : Operand → List Value
  | .value _ => []
  | .list _ => []
  | .raw fragment => fragment.scalars
  | .call call => call.nameScalars
  | .query select => select.scalars

/-- The scalars of a call whose arguments are names. -/
def Call.nameScalars : Call → List Value
  | ⟨_, args⟩ => nameScalars args

/-- The scalars of operands where names are expected. -/
def nameScalars : List Operand → List Value
  | [] => []
  | operand :: rest => operand.nameScalars ++ nameScalars rest

/-- The scalars of an operand where a value is expected. -/
def Operand.valueScalars : Operand → List Value
  | .value v => [v]
  | .list items => valueScalars items
  | .raw fragment => fragment.scalars
  | .call call => call.valueScalars
  | .query select => select.scalars

/-- The scalars of a call whose arguments are values. -/
def Call.valueScalars : Call → List Value
  | ⟨_, args⟩ => valueScalars args

/-- The scalars of operands where values are expected. -/
def valueScalars : List Operand → List Value
  | [] => []
  | operand :: rest => operand.valueScalars ++ valueScalars rest

/-- The scalars of what is selected. -/
def ColumnExpr.scalars : ColumnExpr → List Value
  | .name _ => []
  | .raw fragment => fragment.scalars
  | .call call => call.nameScalars
  | .query select => select.scalars

/-- The scalars of an entry of a select list. -/
def Column.scalars : Column → List Value
  | ⟨expr, _⟩ => expr.scalars

/-- The scalars of a select list. -/
def columnScalars : List Column → List Value
  | [] => []
  | column :: rest => column.scalars ++ columnScalars rest

/-- The scalars of a table. -/
def Table.scalars : Table → List Value
  | .named _ => []
  | .labelled _ _ => []
  | .derived select _ => select.scalars

/-- The scalars of a joined table, followed by those of its condition. -/
def Join.scalars : Join → List Value
  | ⟨_, table, condition⟩ => table.scalars ++ condition.scalars

/-- The scalars of joined tables. -/
def joinScalars : List Join → List Value
  | [] => []
  | join :: rest => join.scalars ++ joinScalars rest

/-- The scalars of a predicate. -/
def Predicate.scalars : Predicate → List Value
  | .compare _ _ _ value => value.valueScalars
  | .raw _ fragment => fragment.scalars
  | .group _ predicates => predicateScalars predicates

/-- The scalars of the predicates of a condition. -/
def predicateScalars : List Predicate → List Value
  | [] => []
  | predicate :: rest => predicate.scalars ++ predicateScalars rest

/-- The scalars of a select, clause by clause. -/
def Select.scalars : Select → List Value
  | ⟨settings, table, columns, _, joins, predicates, _, _⟩ =>
    settings.scalars
      (columnScalars columns ++ table.scalars ++ joinScalars joins ++ predicateScalars predicates)

end

/-! ## The other statements -/

/-- The update of a row that is there already, with its operand replaced. -/
def DuplicateUpdate.substitute (σ : Value → Value) : DuplicateUpdate → DuplicateUpdate
  | assign column value => assign column (value.substituteValue σ)
  | fromValues column => fromValues column

/-- The scalars of the update of a row that is there already. -/
def DuplicateUpdate.scalars : DuplicateUpdate → List Value
  | assign _ value => value.valueScalars
  | fromValues _ => []

/-- An insert with the scalars of its table, rows and updates replaced. -/
def Insert.substitute (σ : Value → Value) (s : Insert) : Insert :=
  { s with
    settings := s.settings.substitute σ
    table := s.table.substitute σ
    rows := s.rows.map (substituteValues σ)
    duplicates := s.duplicates.map (DuplicateUpdate.substitute σ) }

/-- The scalars of an insert, clause by clause. -/
def Insert.scalars (s : Insert) : List Value :=
  s.settings.scalars
    (s.table.scalars ++ s.rows.flatMap valueScalars ++ s.duplicates.flatMap DuplicateUpdate.scalars)

/-- An update with the scalars of its table, assignments and conditions replaced. -/
def Update.substitute (σ : Value → Value) (s : Update) : Update :=
  { s with
    settings := s.settings.substitute σ
    table := s.table.substitute σ
    assignments := s.assignments.map fun pair => (pair.1, pair.2.substituteValue σ)
    predicates := substitutePredicates σ s.predicates }

/-- The scalars of an update, clause by clause. -/
def Update.scalars (s : Update) : List Value :=
  s.settings.scalars
    (s.table.scalars ++ s.assignments.flatMap (fun pair => pair.2.valueScalars)
      ++ predicateScalars s.predicates)

/-- A delete with the scalars of its table and conditions replaced. -/
def Delete.substitute (σ : Value → Value) (s : Delete) : Delete :=
  { s with
    settings := s.settings.substitute σ
    table := s.table.substitute σ
    predicates := substitutePredicates σ s.predicates }

/-- The scalars of a delete, clause by clause. -/
def Delete.scalars (s : Delete) : List Value :=
  s.settings.scalars (s.table.scalars ++ predicateScalars s.predicates)

/-- Replaces the scalars in bound positions. -/
def Statement.substitute (σ : Value → Value) : Statement → Statement
  | select s => select (s.substitute σ)
  | insert s => insert (s.substitute σ)
  | update s => update (s.substitute σ)
  | delete s => delete (s.substitute σ)

/-- The scalars in bound positions, in the order of the text. -/
def Statement.scalars : Statement → List Value
  | select s => s.scalars
  | insert s => s.scalars
  | update s => s.scalars
  | delete s => s.scalars

/-- A statement without its bound scalars. -/
def Statement.erased (s : Statement) : Statement :=
  s.substitute fun _ => .null

/-! ## Replaced scalars

The list of scalars shows what `substitute` replaces: each scalar of the list, in its place. -/

theorem boundParams_substituteParams (σ : Value → Value) (slots : List Slot)
    (params : List Value) :
    boundParams slots (substituteParams σ slots params) = (boundParams slots params).map σ := by
  induction slots generalizing params with
  | nil => rfl
  | cons slot rest ih =>
      cases params with
      | nil => cases slot <;> rfl
      | cons v params =>
          cases slot with
          | value => simp only [substituteParams, boundParams, List.map_cons, ih]
          | name => simp only [substituteParams, boundParams, ih]

theorem Fragment.scalars_substitute (σ : Value → Value) (fragment : Fragment) :
    (fragment.substitute σ).scalars = fragment.scalars.map σ :=
  boundParams_substituteParams σ (slots fragment.sql.toList) fragment.params

example : Fragment.scalars { sql := "??? = ?", params := [.text "c", .null, .int 1] }
    = [.null, .int 1] := rfl

theorem Settings.scalars_substitute (σ : Value → Value) (settings : Settings)
    (clauses : List Value) :
    (settings.substitute σ).scalars (clauses.map σ) = (settings.scalars clauses).map σ := by
  unfold substitute scalars
  cases settings.override with
  | none => rfl
  | some fragment => exact fragment.scalars_substitute σ

theorem JoinKey.scalars_substitute (σ : Value → Value) (key : JoinKey) :
    (key.substitute σ).scalars = key.scalars.map σ := by
  cases key with
  | column name => rfl
  | raw fragment => exact fragment.scalars_substitute σ

theorem JoinCondition.scalars_substitute (σ : Value → Value) (condition : JoinCondition) :
    (condition.substitute σ).scalars = condition.scalars.map σ := by
  cases condition with
  | keys column operator key => exact key.scalars_substitute σ
  | several conditions =>
      simp only [substitute, scalars, List.flatMap_map, List.map_flatMap, OnCondition.substitute,
        JoinKey.scalars_substitute]

mutual

theorem Operand.nameScalars_substitute (σ : Value → Value) :
    ∀ operand : Operand, (operand.substituteName σ).nameScalars = operand.nameScalars.map σ
  | .value v => by simp only [Operand.substituteName, Operand.nameScalars, List.map_nil]
  | .list items => by simp only [Operand.substituteName, Operand.nameScalars, List.map_nil]
  | .raw fragment => by
      simp only [Operand.substituteName, Operand.nameScalars, fragment.scalars_substitute]
  | .call call => by
      simp only [Operand.substituteName, Operand.nameScalars, Call.nameScalars_substitute σ call]
  | .query select => by
      simp only [Operand.substituteName, Operand.nameScalars, Select.scalars_substitute σ select]

theorem Call.nameScalars_substitute (σ : Value → Value) :
    ∀ call : Call, (call.substituteName σ).nameScalars = call.nameScalars.map σ
  | ⟨name, args⟩ => by
      simp only [Call.substituteName, Call.nameScalars, nameScalars_substitute σ args]

theorem nameScalars_substitute (σ : Value → Value) :
    ∀ operands : List Operand, nameScalars (substituteNames σ operands) = (nameScalars operands).map σ
  | [] => by simp only [substituteNames, nameScalars, List.map_nil]
  | operand :: rest => by
      simp only [substituteNames, nameScalars, List.map_append,
        Operand.nameScalars_substitute σ operand, nameScalars_substitute σ rest]

theorem Operand.valueScalars_substitute (σ : Value → Value) :
    ∀ operand : Operand, (operand.substituteValue σ).valueScalars = operand.valueScalars.map σ
  | .value v => by
      simp only [Operand.substituteValue, Operand.valueScalars, List.map_cons, List.map_nil]
  | .list items => by
      simp only [Operand.substituteValue, Operand.valueScalars, valueScalars_substitute σ items]
  | .raw fragment => by
      simp only [Operand.substituteValue, Operand.valueScalars, fragment.scalars_substitute]
  | .call call => by
      simp only [Operand.substituteValue, Operand.valueScalars, Call.valueScalars_substitute σ call]
  | .query select => by
      simp only [Operand.substituteValue, Operand.valueScalars, Select.scalars_substitute σ select]

theorem Call.valueScalars_substitute (σ : Value → Value) :
    ∀ call : Call, (call.substituteValue σ).valueScalars = call.valueScalars.map σ
  | ⟨name, args⟩ => by
      simp only [Call.substituteValue, Call.valueScalars, valueScalars_substitute σ args]

theorem valueScalars_substitute (σ : Value → Value) :
    ∀ operands : List Operand,
      valueScalars (substituteValues σ operands) = (valueScalars operands).map σ
  | [] => by simp only [substituteValues, valueScalars, List.map_nil]
  | operand :: rest => by
      simp only [substituteValues, valueScalars, List.map_append,
        Operand.valueScalars_substitute σ operand, valueScalars_substitute σ rest]

theorem ColumnExpr.scalars_substitute (σ : Value → Value) :
    ∀ expr : ColumnExpr, (expr.substitute σ).scalars = expr.scalars.map σ
  | .name name => by simp only [ColumnExpr.substitute, ColumnExpr.scalars, List.map_nil]
  | .raw fragment => by
      simp only [ColumnExpr.substitute, ColumnExpr.scalars, fragment.scalars_substitute]
  | .call call => by
      simp only [ColumnExpr.substitute, ColumnExpr.scalars, Call.nameScalars_substitute σ call]
  | .query select => by
      simp only [ColumnExpr.substitute, ColumnExpr.scalars, Select.scalars_substitute σ select]

theorem Column.scalars_substitute (σ : Value → Value) :
    ∀ column : Column, (column.substitute σ).scalars = column.scalars.map σ
  | ⟨expr, label⟩ => by
      simp only [Column.substitute, Column.scalars, ColumnExpr.scalars_substitute σ expr]

theorem columnScalars_substitute (σ : Value → Value) :
    ∀ columns : List Column,
      columnScalars (substituteColumns σ columns) = (columnScalars columns).map σ
  | [] => by simp only [substituteColumns, columnScalars, List.map_nil]
  | column :: rest => by
      simp only [substituteColumns, columnScalars, List.map_append,
        Column.scalars_substitute σ column, columnScalars_substitute σ rest]

theorem Table.scalars_substitute (σ : Value → Value) :
    ∀ table : Table, (table.substitute σ).scalars = table.scalars.map σ
  | .named name => by simp only [Table.substitute, Table.scalars, List.map_nil]
  | .labelled name label => by simp only [Table.substitute, Table.scalars, List.map_nil]
  | .derived select label => by
      simp only [Table.substitute, Table.scalars, Select.scalars_substitute σ select]

theorem Join.scalars_substitute (σ : Value → Value) :
    ∀ join : Join, (join.substitute σ).scalars = join.scalars.map σ
  | ⟨kind, table, condition⟩ => by
      simp only [Join.substitute, Join.scalars, List.map_append, Table.scalars_substitute σ table,
        condition.scalars_substitute]

theorem joinScalars_substitute (σ : Value → Value) :
    ∀ joins : List Join, joinScalars (substituteJoins σ joins) = (joinScalars joins).map σ
  | [] => by simp only [substituteJoins, joinScalars, List.map_nil]
  | join :: rest => by
      simp only [substituteJoins, joinScalars, List.map_append, Join.scalars_substitute σ join,
        joinScalars_substitute σ rest]

theorem Predicate.scalars_substitute (σ : Value → Value) :
    ∀ predicate : Predicate, (predicate.substitute σ).scalars = predicate.scalars.map σ
  | .compare combinator column operator value => by
      simp only [Predicate.substitute, Predicate.scalars, Operand.valueScalars_substitute σ value]
  | .raw combinator fragment => by
      simp only [Predicate.substitute, Predicate.scalars, fragment.scalars_substitute]
  | .group combinator predicates => by
      simp only [Predicate.substitute, Predicate.scalars, predicateScalars_substitute σ predicates]

theorem predicateScalars_substitute (σ : Value → Value) :
    ∀ predicates : List Predicate,
      predicateScalars (substitutePredicates σ predicates) = (predicateScalars predicates).map σ
  | [] => by simp only [substitutePredicates, predicateScalars, List.map_nil]
  | predicate :: rest => by
      simp only [substitutePredicates, predicateScalars, List.map_append,
        Predicate.scalars_substitute σ predicate, predicateScalars_substitute σ rest]

theorem Select.scalars_substitute (σ : Value → Value) :
    ∀ select : Select, (select.substitute σ).scalars = select.scalars.map σ
  | ⟨settings, table, columns, distinct, joins, predicates, groupBy, tail⟩ => by
      simp only [Select.substitute, Select.scalars, ← settings.scalars_substitute, List.map_append,
        columnScalars_substitute σ columns, Table.scalars_substitute σ table,
        joinScalars_substitute σ joins, predicateScalars_substitute σ predicates]

end

theorem DuplicateUpdate.scalars_substitute (σ : Value → Value) (update : DuplicateUpdate) :
    (update.substitute σ).scalars = update.scalars.map σ := by
  cases update with
  | assign column value => exact value.valueScalars_substitute σ
  | fromValues column => rfl

theorem Insert.scalars_substitute (σ : Value → Value) (s : Insert) :
    (s.substitute σ).scalars = s.scalars.map σ := by
  simp only [substitute, scalars, ← s.settings.scalars_substitute, List.map_append,
    Table.scalars_substitute, List.flatMap_map, List.map_flatMap, valueScalars_substitute,
    DuplicateUpdate.scalars_substitute]

theorem Update.scalars_substitute (σ : Value → Value) (s : Update) :
    (s.substitute σ).scalars = s.scalars.map σ := by
  simp only [substitute, scalars, ← s.settings.scalars_substitute, List.map_append,
    Table.scalars_substitute, List.flatMap_map, List.map_flatMap, Operand.valueScalars_substitute,
    predicateScalars_substitute]

theorem Delete.scalars_substitute (σ : Value → Value) (s : Delete) :
    (s.substitute σ).scalars = s.scalars.map σ := by
  simp only [substitute, scalars, ← s.settings.scalars_substitute, List.map_append,
    Table.scalars_substitute, predicateScalars_substitute]

/-- Replacing the scalars of a statement replaces each one in its place. -/
theorem Statement.scalars_substitute (σ : Value → Value) (s : Statement) :
    (s.substitute σ).scalars = s.scalars.map σ := by
  cases s with
  | select s => exact Select.scalars_substitute σ s
  | insert s => exact s.scalars_substitute σ
  | update s => exact s.scalars_substitute σ
  | delete s => exact s.scalars_substitute σ

end SqlBuilder
