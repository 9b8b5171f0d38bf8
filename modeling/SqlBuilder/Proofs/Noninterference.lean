import SqlBuilder.Proofs.Render.Related
import SqlBuilder.Proofs.Render.Written
import SqlBuilder.Steps.Select

set_option autoImplicit false

/-! # Bound values never influence the SQL

Two statements that are equal except for the scalars in bound positions have the same SQL text or the
same error. The scalars themselves only turn up as the values of the placeholders, each in the place
of its position. -/

namespace SqlBuilder

/-! ## Rendering with other scalars -/

/-- What was collected, with other values. -/
def Bindings.map (σ : Value → Value) (b : Bindings) : Bindings :=
  { b with params := b.params.map σ }

/-- The second rendering does with replaced values, also those that were collected before, what the
first one does. -/
def Render.Follows {α : Type} (σ : Value → Value) (r r' : Render α) : Prop :=
  ∀ before : Bindings, r'.run (before.map σ) = ((r.run before).1, (r.run before).2.map σ)

namespace Render.Follows

variable {α β : Type} {σ : Value → Value}

theorem bindAll (values : List Value) :
    Follows σ (bindAll values) (SqlBuilder.bindAll (values.map σ)) := by
  intro before
  rw [run_bindAll, run_bindAll]
  simp [Bindings.map]

theorem bind {r r' : Render α} {f f' : α → Render β} (hr : Follows σ r r')
    (hf : ∀ a, Follows σ (f a) (f' a)) : Follows σ (r >>= f) (r' >>= f') := by
  intro before
  rw [run_bind, run_bind, hr before]
  -- both have the same result, so both stop here or both go on with it
  rcases r.run before with ⟨e | a, after⟩
  · rfl
  · exact hf a after

theorem subquery {r r' : Render String} (hr : Follows σ r r') :
    Follows σ (subquery r) (SqlBuilder.subquery r') := by
  intro before
  have own := hr { nested := before.nested }
  rw [run_subquery, run_subquery]
  simp only [Bindings.map, List.map_nil] at own ⊢
  rw [own]
  rcases r.run { nested := before.nested } with ⟨e | sql, inner⟩
  · rfl
  · simp

theorem parametric : Parametric σ fun _ => Follows σ where
  pure _ _ := rfl
  throw _ _ := rfl
  bindAll := bindAll
  bind := bind
  subquery := subquery

end Render.Follows

/-! ## Queries -/

/-- A query with other values. -/
def Query.map (σ : Value → Value) (query : Query) : Query :=
  ⟨query.sql, query.params.map σ⟩

namespace Statement

/-- Replacing the bound scalars of a statement replaces the values that rendering collects. Its text or
error stays, and so does how many values each subquery binds. -/
theorem outcome_substitute (σ : Value → Value) (s : Statement) :
    (s.substitute σ).outcome = (s.outcome.1, s.outcome.2.map σ) :=
  Render.Follows.parametric.outlined (s.outlined σ) {}

/-- Replacing the bound scalars of a statement replaces the values of its query and nothing else. -/
theorem build_substitute (σ : Value → Value) (s : Statement) :
    (s.substitute σ).build = s.build.map (Query.map σ) := by
  unfold build
  rw [outcome_substitute]
  rcases s.outcome with ⟨e | sql, after⟩ <;> rfl

/-- The values of a query are the scalars in the bound positions of its statement. -/
theorem params_of_build {s : Statement} {query : Query} (built : s.build = .ok query) :
    query.params = s.scalars := by
  obtain ⟨after, run, collected⟩ := outcome_of_build built
  obtain ⟨params, same, bound⟩ := s.render_binds _ _ _ run
  rw [← collected, same, bound]
  rfl

/-- Statements that are equal except for the scalars in bound positions fail with the same error, or
have the same text and as many values, where each value is the scalar of its own position. -/
theorem build_noninterference {s t : Statement} (same : s.erased = t.erased) :
    (∃ e, s.build = .error e ∧ t.build = .error e)
      ∨ ∃ sql, s.build = .ok ⟨sql, s.scalars⟩ ∧ t.build = .ok ⟨sql, t.scalars⟩
        ∧ s.scalars.length = t.scalars.length := by
  -- with all bound scalars replaced by one value the two are the same statement
  have equal : s.build.map (Query.map fun _ => .null) = t.build.map (Query.map fun _ => .null) := by
    rw [← build_substitute, ← build_substitute]
    exact congrArg build same
  cases hs : s.build with
  | error e =>
      left
      cases ht : t.build with
      | error e' =>
          rw [hs, ht] at equal
          cases equal
          exact ⟨e, rfl, rfl⟩
      | ok q =>
          rw [hs, ht] at equal
          cases equal
  | ok p =>
      right
      cases ht : t.build with
      | error e =>
          rw [hs, ht] at equal
          cases equal
      | ok q =>
          have hp := params_of_build hs
          have hq := params_of_build ht
          rw [hs, ht] at equal
          have text : p.sql = q.sql := (Query.mk.inj (Except.ok.inj equal)).1
          have lengths : s.scalars.length = t.scalars.length := by
            simpa [erased, scalars_substitute] using congrArg (fun u => u.scalars.length) same
          refine ⟨p.sql, ?_, ?_, lengths⟩
          · rw [← hp]
          · rw [← hq, text]

/-- Scalars in a nested list, in a subquery and in a fragment beside a name. -/
theorem build_noninterference_nested :
    let statement (a b c : Value) := Statement.select (.ofSteps (.named "t")
      [.filter (.isIn .and "a" [.list [.value a]]),
        .filter (.inQuery .or "b" (.ofSteps (.named "u")
          [.filter (.compare .and "k" "like" (.value b))])),
        .filter (.raw .and { sql := "?? = ?", params := [.text "c", c] })])
    let s := statement (.int 1) (.text "x") (.bool true)
    let t := statement (.text "?") .null (.uint 7)
    let sql := "Select * From `t` Where `a` In ((?)) Or `b` In (Select * From `u` Where `k` like ?)"
      ++ " And `c` = ?"
    s.erased = t.erased ∧ s.build = .ok ⟨sql, s.scalars⟩ ∧ t.build = .ok ⟨sql, t.scalars⟩
      ∧ s.scalars.length = t.scalars.length := by
  intro statement s t sql
  have same : s.erased = t.erased := rfl
  have text : s.build.toOption.map Query.sql = some sql := by decide +kernel
  obtain ⟨query, built, hq⟩ := query_of_sql text
  rcases build_noninterference same with ⟨e, hs, ht⟩ | ⟨sql', hs, ht, lengths⟩
  · cases built.symm.trans hs
  · cases built.symm.trans hs
    subst hq
    exact ⟨same, hs, ht, lengths⟩

end Statement

end SqlBuilder
