import SqlBuilder.Proofs.Execution
import SqlBuilder.Proofs.Noninterference

set_option autoImplicit false

/-! # The log hides the bound values

The events of executing a statement follow from its text, from how many values it and its subqueries
bind, and from whether the executor fails and with what error. None of this depends on the bound
values, so without the debug flag the log of two statements that are equal except for the scalars in
bound positions is the same. -/

namespace SqlBuilder.Statement

/-! ## What replaced scalars leave as it is -/

theorem kind_substitute (σ : Value → Value) (s : Statement) : (s.substitute σ).kind = s.kind := by
  cases s <;> rfl

theorem settings_substitute (σ : Value → Value) (s : Statement) :
    (s.substitute σ).settings = s.settings.substitute σ := by
  cases s with
  | select s => cases s; rfl
  | insert s => rfl
  | update s => rfl
  | delete s => rfl

theorem buildEvents_substitute (σ : Value → Value) (s : Statement) :
    (s.substitute σ).buildEvents = s.buildEvents := by
  unfold buildEvents
  rw [outcome_substitute, kind_substitute]
  rcases s.outcome with ⟨e | sql, after⟩
  · rfl
  · simp only [Bindings.map, List.length_map]

/-! ## The log of an execution -/

/-- The events of handing a query over to an executor that gives an answer. -/
def handoverEvents (s : Statement) (handle : Handle) (query : Query)
    (answer : Except QueryError QueryOutput) : List Event :=
  handle.executingEvent s.kind (s.request query) ::
    match answer with
    | .ok _ => []
    | .error e => [.failed s.kind e (cutForLog handle.maxLoggedSql query.sql)]

/-- The events of executing a statement, if its executor gives an answer. -/
def executionEvents (s : Statement) (answer : Except QueryError QueryOutput) : List Event :=
  s.buildEvents ++
    match s.build, s.settings.handle with
    | .ok query, some handle => s.handoverEvents handle query answer
    | _, _ => []

theorem eventsOf_append (first second : List Action) :
    eventsOf (first ++ second) = eventsOf first ++ eventsOf second :=
  List.filterMap_append

theorem eventsOf_map_event (events : List Event) : eventsOf (events.map .event) = events := by
  induction events with
  | nil => rfl
  | cons event rest ih =>
      rw [List.map_cons, eventsOf, List.filterMap_cons]
      exact congrArg (event :: ·) ih

/-- What an execution writes to the log depends on the executor by its answer only. -/
theorem events_of_execute {σ : Type} {executor : Executor σ} {s : Statement} {world : World σ}
    {answer : Except QueryError QueryOutput}
    (answers : ∀ query, s.build = .ok query →
      (executor (s.request query) world.executor).1 = answer) :
    eventsOf ((s.execute executor).run world).2.journal
      = eventsOf world.journal ++ s.executionEvents answer := by
  obtain ⟨outcome, actions, after, run, executes⟩ := s.execute_executes executor world
  rw [run, eventsOf_append, eventsOf_append, eventsOf_map_event, executionEvents]
  cases executes with
  | unbuilt fails => rw [fails]; rfl
  | unattached built bare => rw [built, bare]; rfl
  | answered built attached given =>
      have same := answers _ built
      rw [given] at same
      rw [built, attached, ← same]
      rfl
  | failed built attached given =>
      have same := answers _ built
      rw [given] at same
      rw [built, attached, ← same]
      rfl

/-- Without the debug flag, handing a query over shows its text and how many values it has. -/
theorem handoverEvents_substitute (σ : Value → Value) {s : Statement}
    (quiet : s.settings.debug = false) (handle : Handle) (query : Query)
    (answer : Except QueryError QueryOutput) :
    (s.substitute σ).handoverEvents handle (query.map σ) answer
      = s.handoverEvents handle query answer := by
  have flag : (s.substitute σ).settings.debug = false := by
    rw [settings_substitute]
    exact quiet
  simp only [handoverEvents, Handle.executingEvent, request, kind_substitute, flag, quiet,
    Query.map, List.length_map, Bool.false_eq_true, if_false]

theorem executionEvents_substitute (σ : Value → Value) {s : Statement}
    (quiet : s.settings.debug = false) (answer : Except QueryError QueryOutput) :
    (s.substitute σ).executionEvents answer = s.executionEvents answer := by
  have attached : (s.substitute σ).settings.handle = s.settings.handle := by
    rw [settings_substitute]
    rfl
  rw [executionEvents, executionEvents, buildEvents_substitute, build_substitute, attached]
  cases s.build with
  | error e => rfl
  | ok query =>
      cases s.settings.handle with
      | none => rfl
      | some handle => exact congrArg _ (handoverEvents_substitute σ quiet handle query answer)

/-- Statements that are equal except for the scalars in bound positions, whose debug flag is not set
and whose executors give the same answer, leave the same events in the log when they are
executed. -/
theorem log_noninterference {σ τ : Type} {s t : Statement} (same : s.erased = t.erased)
    (quiet : s.settings.debug = false ∧ t.settings.debug = false)
    {first : Executor σ} {second : Executor τ} {world : World σ} {other : World τ}
    {answer : Except QueryError QueryOutput}
    (answers : (∀ query, s.build = .ok query →
        (first (s.request query) world.executor).1 = answer)
      ∧ ∀ query, t.build = .ok query → (second (t.request query) other.executor).1 = answer) :
    ∃ events,
      eventsOf ((s.execute first).run world).2.journal = eventsOf world.journal ++ events
        ∧ eventsOf ((t.execute second).run other).2.journal = eventsOf other.journal ++ events := by
  have equal : s.executionEvents answer = t.executionEvents answer :=
    calc s.executionEvents answer
      _ = s.erased.executionEvents answer := (executionEvents_substitute _ quiet.1 answer).symm
      _ = t.erased.executionEvents answer := by rw [same]
      _ = t.executionEvents answer := executionEvents_substitute _ quiet.2 answer
  refine ⟨s.executionEvents answer, events_of_execute answers.1, ?_⟩
  rw [equal]
  exact events_of_execute answers.2

/-- A subquery with a secret, and executors that fail with the same error, one at once and the other
after counting. The texts in the log are cut. -/
theorem log_noninterference_failing :
    let statement (v w : Value) := Statement.select (.ofSteps (.named "t")
      [.setting (.attach ⟨some 8⟩),
        .filter (.inQuery .and "a" (.ofSteps (.named "u") [.filter (.equal .and "k" (.value v))])),
        .filter (.raw .and { sql := "?? = ?", params := [.text "c", w] })])
    let s := statement (.text "secret") (.int 1)
    let t := statement .null (.text "public")
    let silent : Executor Unit := fun _ state => (.error (.execution "gone"), state)
    let counting : Executor Nat := fun _ calls => (.error (.execution "gone"), calls + 1)
    s.erased = t.erased ∧ s.settings.debug = false ∧ t.settings.debug = false
      ∧ ∃ events, eventsOf ((s.execute silent).run ⟨(), []⟩).2.journal = events
        ∧ eventsOf ((t.execute counting).run ⟨0, []⟩).2.journal = events
        ∧ events = [.compiled .select 1, .compiled .select 2,
            .executing .select 2 "Select *..." none,
            .failed .select (.execution "gone") "Select *..."] := by
  intro statement s t silent counting
  have same : s.erased = t.erased := rfl
  have gone (query : Query) (_ : s.build = .ok query) :
      (silent (s.request query) ()).1 = .error (.execution "gone") := rfl
  have gone' (query : Query) (_ : t.build = .ok query) :
      (counting (t.request query) 0).1 = .error (.execution "gone") := rfl
  have journals : ∃ events,
      eventsOf ((s.execute silent).run ⟨(), []⟩).2.journal = [] ++ events
        ∧ eventsOf ((t.execute counting).run ⟨0, []⟩).2.journal = [] ++ events :=
    log_noninterference same ⟨rfl, rfl⟩ ⟨gone, gone'⟩
  obtain ⟨events, hs, ht⟩ := journals
  refine ⟨same, rfl, rfl, events, hs, ht, ?_⟩
  rw [← List.nil_append events]
  refine hs.symm.trans ((events_of_execute gone).trans ?_)
  decide +kernel

end SqlBuilder.Statement
