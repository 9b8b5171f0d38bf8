import SqlBuilder.Proofs.Precedence
import SqlBuilder.Proofs.Render.Alone

set_option autoImplicit false

/-! # What stands around a clause

A clause stands in a frame: the text and the values before it and after it do not depend on it,
unless a refused operator or an override keeps all clauses from being rendered. So two statements
that differ in one clause build what their clauses yield, in the same frame. -/

namespace SqlBuilder

/-- What stands around a clause. -/
inductive Frame where
  /-- The clause is not rendered. -/
  | fixed (result : Except QueryError Query)
  | around (before after : Except QueryError Query)

/-- The query with the clause in its place. The first of the three parts that fails decides the
error. -/
def Frame.fill : Frame → Except QueryError Query → Except QueryError Query
  | fixed result, _ => result
  | around before after, clause => do
    let before ← before
    let clause ← clause
    let after ← after
    return before ++ clause ++ after

/-- The values of a frame do not depend on the text of the clause. -/
theorem Frame.params_fill (frame : Frame) {clause other : Except QueryError Query}
    (same : clause.map Query.params = other.map Query.params) :
    (frame.fill clause).map Query.params = (frame.fill other).map Query.params := by
  cases frame with
  | fixed result => rfl
  | around before after =>
      have values (clause : Except QueryError Query) :
          ((around before after).fill clause).map Query.params = do
            let before ← before
            let params ← clause.map Query.params
            let after ← after
            return before.params ++ params ++ after.params := by
        cases before <;> cases clause <;> cases after <;> rfl
      rw [values, values, same]

/-- A query in a frame is put together from three queries. -/
theorem Frame.fill_eq_ok {before after clause : Except QueryError Query} {query : Query}
    (built : (around before after).fill clause = .ok query) :
    ∃ first middle last, before = .ok first ∧ clause = .ok middle ∧ after = .ok last
      ∧ query = first ++ middle ++ last := by
  rcases before with _ | first
  · cases built
  · rcases clause with _ | middle
    · cases built
    · rcases after with _ | last
      · cases built
      · exact ⟨first, middle, last, rfl, rfl, rfl, (Except.ok.inj built).symm⟩

/-! ## Clauses of statements -/

/-- What stands around a clause of a statement with these settings. -/
def Settings.frame (settings : Settings) (before after : Render String) : Frame :=
  match settings.rejected with
  | some operator => .fixed (.error (.operatorNotAllowed operator))
  | none =>
    match settings.override with
    | some fragment => .fixed fragment.query
    | none => .around before.query after.query

theorem Fragment.query_render (fragment : Fragment) : fragment.render.query = fragment.query := by
  unfold Fragment.render Fragment.query
  cases fragment.expand <;> rfl

/-- What is rendered between two texts stands in the frame of what they yield. -/
theorem Render.query_eq_fill {r before clause after : Render String}
    (rendered : r = before ++ (clause ++ after)) (hc : clause.Appends) (ha : after.Appends) :
    r.query = (Frame.around before.query after.query).fill clause.query := by
  rw [rendered, query_append _ (hc.append ha), query_append _ ha]
  simp only [Frame.fill, bind_assoc, pure_bind, Query.append_assoc]

/-- A statement that is rendered as a clause between two texts builds what the clause yields, in
its frame. -/
theorem Settings.build_eq_fill {s : Statement} {settings : Settings}
    {before clause after : Render String}
    (rendered : s.render = settings.render (before ++ (clause ++ after))) (hc : clause.Appends)
    (ha : after.Appends) : s.build = (settings.frame before after).fill clause.query := by
  rw [Statement.build_eq_query, rendered]
  unfold Settings.render Settings.frame
  cases settings.rejected with
  | some operator => rfl
  | none =>
      cases settings.override with
      | some fragment => exact fragment.query_render
      | none => exact Render.query_eq_fill rfl hc ha

namespace Select

/-- The text of a select before its conditions. -/
def beforeConditions (s : Select) : Render String := do
  let columns ← renderColumns s.columns
  let table ← s.table.render
  let joins ← renderJoins s.joins
  return "Select" ++ (if s.distinct then " Distinct" else "") ++ " " ++ selectListText columns
    ++ " From " ++ table ++ String.join joins

/-- What stands around the conditions of a select. -/
def frame (s : Select) : Frame :=
  s.settings.frame s.beforeConditions (pure (groupByText s.groupBy ++ s.tail.text))

theorem build_eq (s : Select) :
    (Statement.select s).build = s.frame.fill (Clause.filter s.predicates).query := by
  refine Settings.build_eq_fill ?_ (Clause.filter s.predicates).render_appends (.pure _)
  cases s
  simp only [Statement.render, render, beforeConditions, Clause.render, renderWhere,
    Render.append_eq, bind_assoc, pure_bind, String.append_assoc]

end Select

namespace Update

/-- The text of an update before its conditions. -/
def beforeConditions (s : Update) : Render String := do
  if s.assignments.isEmpty then
    throw .updateWithoutAssignments
  let table ← s.table.render
  let assignments ← renderAssignments s.assignments
  return "Update " ++ table ++ " Set " ++ commas assignments

/-- What stands around the conditions of an update. -/
def frame (s : Update) : Frame :=
  s.settings.frame s.beforeConditions (pure s.tail.text)

theorem build_eq (s : Update) :
    (Statement.update s).build = s.frame.fill (Clause.filter s.predicates).query := by
  refine Settings.build_eq_fill ?_ (Clause.filter s.predicates).render_appends (.pure _)
  simp only [Statement.render, render, beforeConditions, Clause.render]
  cases s.assignments.isEmpty with
  | true => rfl
  | false =>
      simp only [Render.append_eq, bind_assoc, pure_bind, String.append_assoc, Bool.false_eq_true,
        if_false]

end Update

namespace Delete

/-- The text of a delete before its conditions. -/
def beforeConditions (s : Delete) : Render String := do
  let table ← s.table.render
  return "Delete From " ++ table

/-- What stands around the conditions of a delete. -/
def frame (s : Delete) : Frame :=
  s.settings.frame s.beforeConditions (pure s.tail.text)

theorem build_eq (s : Delete) :
    (Statement.delete s).build = s.frame.fill (Clause.filter s.predicates).query := by
  refine Settings.build_eq_fill ?_ (Clause.filter s.predicates).render_appends (.pure _)
  simp only [Statement.render, render, beforeConditions, Clause.render, Render.append_eq,
    bind_assoc, pure_bind, String.append_assoc]

end Delete

namespace Insert

/-- The text of an insert before its column list. -/
def beforeColumns (s : Insert) : Render String := do
  if s.rows.isEmpty then
    throw .insertWithoutRows
  let table ← s.table.render
  return "Insert" ++ (if s.ignore then " Ignore" else "") ++ " Into " ++ table

/-- The text of an insert after its column list. -/
def afterColumns (s : Insert) : Render String := do
  let rows ← renderRows s.rows
  let duplicates ← renderDuplicates s.duplicates
  return " Values " ++ commas rows ++ duplicatesText duplicates

/-- What stands around the column list of an insert. -/
def frame (s : Insert) : Frame :=
  s.settings.frame s.beforeColumns s.afterColumns

theorem afterColumns_appends (s : Insert) : s.afterColumns.Appends :=
   .bind (renderRows_appends s.rows) fun _ =>
    .bind (renderDuplicates_appends s.duplicates) fun _ => .pure _

theorem build_eq (s : Insert) :
    (Statement.insert s).build = s.frame.fill (Clause.insertColumns s.columns).query := by
  refine Settings.build_eq_fill ?_ (Clause.insertColumns s.columns).render_appends
    s.afterColumns_appends
  simp only [Statement.render, render, beforeColumns, afterColumns, Clause.render]
  cases s.rows.isEmpty with
  | true => rfl
  | false =>
      simp only [Render.append_eq, bind_assoc, pure_bind, String.append_assoc, Bool.false_eq_true,
        if_false]

end Insert

end SqlBuilder
