import SqlBuilder.Proofs.Render.Appends
import SqlBuilder.Query

set_option autoImplicit false

/-! # Renderings on their own

What a rendering appends to what was collected before is what it yields on its own: its text with
the values that it binds, or its error. The text of several renderings one after the other is put
together from what they yield on their own, and the first one that fails decides the error. -/

namespace SqlBuilder

/-! ## Queries one after the other -/

namespace Query

/-- Text that binds nothing. -/
def bare (sql : String) : Query := ⟨sql, []⟩

/-- One text after the other, with the values of both. -/
instance : Append Query :=
  ⟨fun first second => ⟨first.sql ++ second.sql, first.params ++ second.params⟩⟩

theorem append_eq (first second : Query) :
    first ++ second = ⟨first.sql ++ second.sql, first.params ++ second.params⟩ := rfl

theorem append_assoc (a b c : Query) : a ++ b ++ c = a ++ (b ++ c) := by
  simp only [append_eq, String.append_assoc, List.append_assoc]

/-- Several queries as one: their texts, joined, with all their values. -/
def joined (join : List String → String) (queries : List Query) : Query :=
  ⟨join (queries.map (·.sql)), queries.flatMap (·.params)⟩

end Query

namespace Render

/-! ## Texts one after the other -/

theorem Appends.append {first second : Render String} (hf : first.Appends)
    (hs : second.Appends) : (first ++ second).Appends :=
  hf.bind fun _ => hs.bind fun _ => .pure _

/-! ## What a rendering yields -/

/-- What a rendering yields if nothing was collected before: its text with the values that it
binds, or its error. -/
def query (r : Render String) : Except QueryError Query :=
  match r.run {} with
  | (.ok sql, after) => .ok ⟨sql, after.params⟩
  | (.error e, _) => .error e

theorem query_pure (sql : String) : query (pure sql) = .ok (.bare sql) := rfl

theorem query_map (f : String → String) (r : Render String) :
    query (f <$> r) = r.query.map fun yield => { yield with sql := f yield.sql } := by
  rw [query, run_map, query]
  rcases r.run {} with ⟨e | sql, after⟩ <;> rfl

/-- What a rendering yields that goes on after the text of another one. -/
theorem query_bind (first : Render String) {next : String → Render String}
    (appends : ∀ text, (next text).Appends) :
    (first >>= next).query = do
      let before ← first.query
      let after ← (next before.sql).query
      return ⟨after.sql, before.params ++ after.params⟩ := by
  rw [query, run_bind, query]
  rcases first.run {} with ⟨e | text, middle⟩
  · rfl
  · -- the second one appends to what the first one has collected
    simp only
    rw [appends text middle]
    show _ = (next text).query.bind fun after =>
      .ok (Query.mk after.sql (middle.params ++ after.params))
    rw [query]
    rcases (next text).run {} with ⟨e | sql, after⟩ <;> rfl

theorem query_append (first : Render String) {second : Render String} (hs : second.Appends) :
    (first ++ second).query = do
      let text ← first.query
      let more ← second.query
      return text ++ more := by
  have order : first ++ second = first >>= fun text => (fun more => text ++ more) <$> second := by
    simp only [append_eq, map_eq_pure_bind]
  rw [order, query_bind first fun text => hs.map _]
  simp only [query_map]
  rcases second.query with e | more <;> rfl

/-! ## Lists of renderings -/

theorem Appends.mapM {α β : Type} {body : α → Render β} (each : ∀ a, (body a).Appends)
    (as : List α) : (as.mapM body).Appends := by
  induction as with
  | nil => exact .pure []
  | cons a rest ih =>
      rw [List.mapM_cons]
      exact (each a).bind fun _ => ih.bind fun _ => .pure _

theorem query_mapM {α : Type} {body : α → Render String} (each : ∀ a, (body a).Appends)
    (join : List String → String) (as : List α) :
    query (join <$> as.mapM body)
      = (as.mapM fun a => (body a).query).map (Query.joined join) := by
  induction as generalizing join with
  | nil => rfl
  | cons a rest ih =>
      -- the text of the first entry is known when the others are joined to it
      have order : join <$> (a :: rest).mapM body
          = body a >>= fun text => (fun texts => join (text :: texts)) <$> rest.mapM body := by
        simp only [List.mapM_cons, map_eq_pure_bind, bind_assoc, pure_bind]
      have others : ∀ text, ((fun texts => join (text :: texts)) <$> rest.mapM body).Appends := by
        intro text
        exact (Appends.mapM each rest).map _
      rw [order, query_bind _ others, List.mapM_cons]
      rcases (body a).query with e | first
      · rfl
      · have tail := ih fun texts => join (first.sql :: texts)
        show query ((fun texts => join (first.sql :: texts)) <$> rest.mapM body) >>= _ = _
        rw [tail]
        rcases rest.mapM fun a => (body a).query with e | queries <;> rfl

end Render

/-- What a clause yields on its own. -/
def Clause.query (clause : Clause) : Except QueryError Query :=
  clause.render.query

theorem Statement.build_eq_query (s : Statement) : s.build = s.render.query := rfl

/-- A select in parentheses, with the values that it binds. -/
def Query.parenthesized (query : Query) : Query :=
  .bare "(" ++ query ++ .bare ")"

/-- A subquery yields what its select builds, in parentheses. -/
theorem Clause.query_subquery (select : Select) :
    (Clause.subquery select).query = (Statement.select select).build.map Query.parenthesized := by
  unfold Clause.query Clause.render Statement.build Statement.outcome Render.query
  rw [Render.run_subquery]
  have rendered : (Statement.select select).render = select.render := rfl
  rw [rendered]
  rcases select.render.run {} with ⟨e | sql, inner⟩
  · rfl
  · simp [Except.map, Query.parenthesized, Query.append_eq, Query.bare]

end SqlBuilder
