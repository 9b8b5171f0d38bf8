import SqlBuilder.Proofs.Assembly
import SqlBuilder.Query

set_option autoImplicit false

/-! # Refusals come before overrides, and overrides before clauses

The first operator of a program that is not on the allow-list decides what the program builds,
whatever else the program does, and if there is none the last override does. Clauses are rendered
only if there is neither. -/

namespace SqlBuilder

/-- What a fragment is as a statement of its own. -/
def Fragment.query (fragment : Fragment) : Except QueryError Query :=
  fragment.expand.map fun done => ⟨done.1, done.2⟩

namespace Statement

/-- A statement is rendered under its settings. -/
theorem render_settings (s : Statement) :
    ∃ clauses : Render String, s.render = s.settings.render clauses := by
  cases s with
  | select s =>
      cases s
      exact ⟨_, by rw [render, Select.render, settings]⟩
  | insert s => exact ⟨_, rfl⟩
  | update s => exact ⟨_, rfl⟩
  | delete s => exact ⟨_, rfl⟩

theorem build_of_rejected {s : Statement} {operator : String}
    (rejected : s.settings.rejected = some operator) :
    s.build = .error (.operatorNotAllowed operator) := by
  obtain ⟨clauses, rendered⟩ := s.render_settings
  rw [build, outcome, rendered, Settings.render, rejected]
  rfl

theorem build_of_override {s : Statement} {fragment : Fragment}
    (accepted : s.settings.rejected = none) (set : s.settings.override = some fragment) :
    s.build = fragment.query := by
  obtain ⟨clauses, rendered⟩ := s.render_settings
  rw [build, outcome, rendered, Settings.render, accepted]
  simp only [set, Fragment.render, Fragment.query]
  -- the fragment is expanded in the same way, and nothing was collected before it
  cases fragment.expand with
  | error e => rfl
  | ok done => rfl

end Statement

/-- A program that passes an operator from outside the allow-list fails with the first such
operator, whatever its other steps are. Without one, the last override is all that is built. -/
theorem Program.build_precedence (program : Program) :
    (∀ operator, program.refused = some operator →
      program.statement.build = .error (.operatorNotAllowed operator))
    ∧ (program.refused = none → ∀ fragment, program.overrides.getLast? = some fragment →
      program.statement.build = fragment.query) := by
  refine ⟨fun operator refused => ?_, fun accepted fragment last => ?_⟩
  · apply Statement.build_of_rejected
    rw [rejected_statement, refused]
  · apply Statement.build_of_override
    · rw [rejected_statement, accepted]
    · rw [override_statement, last]

/-- A refused operator in a group that comes after an override and before another refused operator,
in an update without assignments; and an insert without rows that is overridden twice. -/
theorem Program.build_precedence_mixed :
    let refusing := Program.update (.named "t")
      [.setting (.override { sql := "Select 1" }),
        .filter (.group .and [.equal .and "a" (.value (.int 1)),
          .matching .or (.group [.compare .and "b" "LIKE" (.value .null),
            .compare .and "c" "~" (.value .null)])]),
        .filter (.compare .or "d" "^" (.value .null))]
    let last : Fragment := { sql := "?? = ?", params := [.text "c", .int 1] }
    let overridden := Program.insert (.named "t")
      [.setting (.override { sql := "??" }), .columns ["a"], .setting (.override last)]
    refusing.refused = some "~"
      ∧ refusing.statement.build = .error (.operatorNotAllowed "~")
      ∧ overridden.refused = none ∧ overridden.overrides.getLast? = some last
      ∧ overridden.statement.build = last.query := by
  intro refusing last overridden
  have refused : refusing.refused = some "~" := by decide
  exact ⟨refused, (build_precedence refusing).1 "~" refused, rfl, rfl,
    (build_precedence overridden).2 rfl last rfl⟩

end SqlBuilder
