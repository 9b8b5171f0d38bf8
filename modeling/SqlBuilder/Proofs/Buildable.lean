import SqlBuilder.Proofs.Assembly
import SqlBuilder.Proofs.Render.Tries

set_option autoImplicit false

/-! # Which statements build

If all fragments of a statement expand, it can fail for one of these reasons only: it was refused an
operator, there is no override and its clauses cannot be rendered, or a select inside it does not
build. `Program.builds_iff` says so of the statements that programs build. -/

namespace SqlBuilder

/-! ## Fragments that expand -/

/-- Every slot for a name has a text when it is its turn. A slot for a value may go without. -/
def namesGiven : List Slot → List Value → Prop
  | [], _ => True
  | .value :: slots, params => namesGiven slots params.tail
  | .name :: slots, .text _ :: params => namesGiven slots params
  | .name :: _, _ => False

/-- A fragment whose names are given. There is no condition on other ingredients. -/
def Ingredient.Expands : Ingredient → Prop
  | .fragment sql => namesGiven (slots sql.sql.toList) sql.params
  | _ => True

theorem Fragment.expandFrom_ok_iff (named : Nat) (cs : List Char) (params : List Value) :
    failureOf (expandFrom named cs params) = none ↔ namesGiven (slots cs) params := by
  induction named, cs, params using expandFrom.induct with
  | case1 named params => exact iff_of_true rfl trivial
  | case2 named rest =>
      rw [expandFrom, slots, namesGiven]
      · exact iff_of_false (by simp [failureOf]) id
      · simp
  | case3 named rest name params ih => rw [expandFrom, slots, namesGiven, failureOf_map, ih]
  | case4 named rest param params other =>
      rw [expandFrom, slots, namesGiven]
      · exact iff_of_false (by simp [failureOf]) id
      · simpa using other
      · exact other
  | case5 named rest single ih =>
      rw [expandFrom, slots, namesGiven, failureOf_map, ih]
      · rfl
      all_goals exact single
  | case6 named rest single param params ih =>
      rw [expandFrom, slots, namesGiven, failureOf_map, ih]
      · rfl
      all_goals exact single
  | case7 named c rest params pair other ih =>
      rw [expandFrom, slots, failureOf_map, ih]
      all_goals assumption

/-- A fragment expands if and only if its names are given. -/
theorem Fragment.expand_ok_iff (fragment : Fragment) :
    failureOf fragment.expand = none ↔ (Ingredient.fragment fragment).Expands := by
  rw [expand, failureOf_map, expandFrom_ok_iff]
  rfl

/-! ## Clauses that render -/

/-- An operand that can stand where a name is expected. -/
inductive Operand.IsName : Operand → Prop
  | text (name : String) : IsName (.value (.text name))
  | raw (fragment : Fragment) : IsName (.raw fragment)
  | call {call : Call} (args : ∀ arg ∈ call.args, arg.IsName) : IsName (.call call)
  | query (select : Select) : IsName (.query select)

/-- The arguments of what is selected, if it is a call, can stand for names. -/
def ColumnExpr.HasNames : ColumnExpr → Prop
  | .call c => ∀ arg ∈ c.args, arg.IsName
  | _ => True

/-- What the clauses of a statement must have for it to render, fragments and selects aside. -/
def Statement.HasClauses : Statement → Prop
  | .select s =>
    (∀ column ∈ s.columns, column.expr.HasNames) ∧ ∀ join ∈ s.joins, join.condition ≠ .several []
  | .insert s => s.rows ≠ []
  | .update s => s.assignments ≠ []
  | .delete _ => True

/-- A statement whose clauses render, fragments aside. -/
structure Statement.Renderable (s : Statement) : Prop where
  clauses : s.HasClauses
  nested : ∀ select, .query select ∈ s.ingredients →
    ∃ query, (Statement.select select).build = .ok query

/-! ## Parts that do not fail -/

/-- None of the parts fails. -/
def PartsFine (parts : List StatementPart) : Prop :=
  ∀ part ∈ parts, part.failure = none

/-- None of the ingredients fails. -/
def IngredientsFine (ingredients : List Ingredient) : Prop :=
  ∀ i ∈ ingredients, i.failure = none

theorem ingredientsFine_nil : IngredientsFine [] :=
  List.forall_mem_nil _

/-- The parts are fine if and only if a condition holds and the ingredients are fine, and the parts
have no other ingredients. -/
structure Requires (parts : List StatementPart) (condition : Prop) (ingredients : List Ingredient) :
    Prop where
  fine : PartsFine parts ↔ condition ∧ IngredientsFine ingredients
  among : ∀ i, .ingredient i ∈ parts → i ∈ ingredients

namespace Requires

variable {parts more : List StatementPart} {condition other : Prop}
  {ingredients rest : List Ingredient}

theorem nil (holds : condition) : Requires [] condition [] where
  fine := iff_of_true (List.forall_mem_nil _) ⟨holds, ingredientsFine_nil⟩
  among _ mem := by cases mem

theorem ofIngredients (ingredients : List Ingredient) (holds : condition) :
    Requires (ingredients.map .ingredient) condition ingredients where
  fine := List.forall_mem_map.trans (and_iff_right holds).symm
  among i mem := by
    obtain ⟨j, hj, same⟩ := List.mem_map.1 mem
    cases same
    exact hj

/-- A part that is no ingredient fails, and only stands where the condition is violated. -/
theorem failing {part : StatementPart} {e : QueryError} (fails : part.failure = some e)
    (own : ∀ i, part ≠ .ingredient i) (violated : ¬condition) (ingredients : List Ingredient) :
    Requires [part] condition ingredients where
  fine := by
    refine iff_of_false (fun fine => ?_) fun h => violated h.1
    have none := fine part (List.mem_singleton_self part)
    rw [fails] at none
    cases none
  among i mem := absurd (List.mem_singleton.1 mem).symm (own i)

theorem append (first : Requires parts condition ingredients) (second : Requires more other rest) :
    Requires (parts ++ more) (condition ∧ other) (ingredients ++ rest) where
  fine := by
    have both : PartsFine (parts ++ more) ↔ PartsFine parts ∧ PartsFine more :=
      List.forall_mem_append
    have split : IngredientsFine (ingredients ++ rest)
        ↔ IngredientsFine ingredients ∧ IngredientsFine rest := List.forall_mem_append
    rw [both, split, first.fine, second.fine]
    exact and_and_and_comm
  among i mem := by
    rcases List.mem_append.1 mem with h | h
    · exact List.mem_append_left _ (first.among i h)
    · exact List.mem_append_right _ (second.among i h)

/-- An ingredient that cannot fail makes no difference. -/
theorem cons {i : Ingredient} (written : i.failure = none)
    (h : Requires parts condition ingredients) : Requires parts condition (i :: ingredients) where
  fine := by
    have split : IngredientsFine (i :: ingredients)
        ↔ i.failure = none ∧ IngredientsFine ingredients := List.forall_mem_cons
    rw [h.fine, split, and_iff_right written]
  among j mem := List.mem_cons_of_mem i (h.among j mem)

theorem congr (h : Requires parts condition ingredients) (same : condition ↔ other) :
    Requires parts other ingredients where
  fine := h.fine.trans (and_congr_left' same)
  among := h.among

theorem flatMap {ι : Type} {parts : ι → List StatementPart} {condition : ι → Prop}
    {ingredients : ι → List Ingredient}
    (each : ∀ entry, Requires (parts entry) (condition entry) (ingredients entry))
    (entries : List ι) :
    Requires (entries.flatMap parts) (∀ entry ∈ entries, condition entry)
      (entries.flatMap ingredients) := by
  induction entries with
  | nil => exact .nil (List.forall_mem_nil _)
  | cons entry rest ih =>
      simp only [List.flatMap_cons, List.forall_mem_cons]
      exact (each entry).append ih

/-- A list that must not be empty is checked before anything else is tried. -/
theorem unless_empty {ι : Type} {part : StatementPart} {e : QueryError}
    (fails : part.failure = some e) (own : ∀ i, part ≠ .ingredient i) (entries : List ι)
    (h : Requires parts condition ingredients) :
    Requires (if entries.isEmpty then [part] else parts) (entries ≠ [] ∧ condition)
      ingredients := by
  cases entries with
  | nil => exact failing fails own (fun h => h.1 rfl) ingredients
  | cons entry rest => exact h.congr (and_iff_right (List.cons_ne_nil entry rest)).symm

end Requires

/-! ## Names -/

theorem Operand.isName_call (call : Call) :
    (Operand.call call).IsName ↔ ∀ arg ∈ call.args, arg.IsName := by
  constructor
  · intro h
    cases h with
    | call args => exact args
  · exact .call

mutual

theorem Operand.nameParts_require :
    ∀ operand : Operand, Requires operand.nameParts operand.IsName operand.ingredients
  | .value v => by
      cases v with
      | text name =>
          simp only [Operand.nameParts, Operand.ingredients]
          exact .nil (.text name)
      | _ =>
          simp only [Operand.nameParts]
          exact .failing rfl (by simp) (fun name => by cases name) _
  | .list items => by
      simp only [Operand.nameParts]
      exact .failing rfl (by simp) (fun name => by cases name) _
  | .raw fragment => by
      simp only [Operand.nameParts, Operand.ingredients]
      exact .ofIngredients [.fragment fragment] (.raw fragment)
  | .call call => by
      simp only [Operand.nameParts, Operand.ingredients, Operand.isName_call]
      exact Call.nameParts_require call
  | .query select => by
      simp only [Operand.nameParts, Operand.ingredients]
      exact .ofIngredients [.query select] (.query select)

theorem Call.nameParts_require :
    ∀ call : Call, Requires call.nameParts (∀ arg ∈ call.args, arg.IsName) call.ingredients
  | ⟨name, args⟩ => by
      simp only [Call.nameParts, Call.ingredients]
      exact (nameParts_require args).cons rfl

theorem nameParts_require :
    ∀ operands : List Operand,
      Requires (nameParts operands) (∀ operand ∈ operands, operand.IsName)
        (operandIngredients operands)
  | [] => by
      simp only [nameParts, operandIngredients]
      exact .nil (List.forall_mem_nil _)
  | operand :: rest => by
      simp only [nameParts, operandIngredients, List.forall_mem_cons]
      exact (Operand.nameParts_require operand).append (nameParts_require rest)

end

/-! ## Clauses -/

theorem Column.parts_require (column : Column) :
    Requires column.parts column.expr.HasNames column.ingredients := by
  obtain ⟨expr, label⟩ := column
  rw [Column.parts, Column.ingredients]
  cases expr with
  | name name => exact .nil trivial
  | raw fragment => exact .ofIngredients [.fragment fragment] trivial
  | call call => exact Call.nameParts_require call
  | query select => exact .ofIngredients [.query select] trivial

theorem JoinCondition.parts_require (table : Table) (condition : JoinCondition) :
    Requires (condition.parts table) (condition ≠ .several []) condition.ingredients := by
  cases condition with
  | keys column operator key => exact .ofIngredients _ nofun
  | several conditions =>
      cases conditions with
      | nil => exact .failing rfl (by simp) (fun h => h rfl) _
      | cons condition rest => exact .ofIngredients _ nofun

theorem Join.parts_require (join : Join) :
    Requires join.parts (join.condition ≠ .several []) join.ingredients := by
  obtain ⟨kind, table, condition⟩ := join
  rw [Join.parts, Join.ingredients]
  have both := (Requires.ofIngredients table.ingredients trivial).append
    (condition.parts_require table)
  exact both.congr (true_and _).to_iff

theorem Settings.ingredients_of_unset {settings : Settings} (unset : settings.override = none) :
    settings.ingredients = [] := by
  rw [ingredients, unset]
  rfl

namespace Statement

/-- No part of the clauses fails if the statement has what they need and no ingredient fails. -/
theorem clauseParts_require {s : Statement} (unset : s.settings.override = none) :
    Requires s.clauseParts s.HasClauses s.ingredients := by
  cases s with
  | select s =>
      have none : s.settings.ingredients = [] := Settings.ingredients_of_unset unset
      have table := Requires.ofIngredients s.table.ingredients trivial
      have predicates := Requires.ofIngredients (predicateIngredients s.predicates) trivial
      have columns := Requires.flatMap Column.parts_require s.columns
      have joins := Requires.flatMap Join.parts_require s.joins
      have clauses := columns.append (table.append (joins.append predicates))
      rw [ingredients, Select.ingredients, none, List.nil_append, List.append_assoc,
        List.append_assoc]
      refine clauses.congr ?_
      rw [true_and, and_true]
      rfl
  | insert s =>
      have none : s.settings.ingredients = [] := Settings.ingredients_of_unset unset
      have table := Requires.ofIngredients s.table.ingredients trivial
      have rows := Requires.ofIngredients (s.rows.flatMap operandIngredients) trivial
      have duplicates :=
        Requires.ofIngredients (s.duplicates.flatMap DuplicateUpdate.ingredients) trivial
      have clauses := table.append (rows.append duplicates)
      rw [ingredients, Insert.ingredients, none, List.nil_append, List.append_assoc]
      refine (clauses.unless_empty rfl (by simp) s.rows).congr ?_
      rw [true_and, and_true, and_true]
      rfl
  | update s =>
      have none : s.settings.ingredients = [] := Settings.ingredients_of_unset unset
      have table := Requires.ofIngredients s.table.ingredients trivial
      have assignments := Requires.ofIngredients (pairIngredients s.assignments) trivial
      have predicates := Requires.ofIngredients (predicateIngredients s.predicates) trivial
      have clauses := table.append (assignments.append predicates)
      rw [ingredients, Update.ingredients, none, List.nil_append, List.append_assoc]
      refine (clauses.unless_empty rfl (by simp) s.assignments).congr ?_
      rw [true_and, and_true, and_true]
      rfl
  | delete s =>
      have none : s.settings.ingredients = [] := Settings.ingredients_of_unset unset
      have table := Requires.ofIngredients s.table.ingredients trivial
      have predicates := Requires.ofIngredients (predicateIngredients s.predicates) trivial
      have clauses := table.append predicates
      rw [ingredients, Delete.ingredients, none, List.nil_append]
      refine clauses.congr ?_
      rw [true_and]
      rfl

theorem mem_ingredients_of_override {s : Statement} {fragment : Fragment}
    (set : s.settings.override = some fragment) : .fragment fragment ∈ s.ingredients := by
  have mem : Ingredient.fragment fragment ∈ s.settings.ingredients := by
    rw [Settings.ingredients, set]
    exact List.mem_singleton_self _
  cases s with
  | select s =>
      simp only [ingredients, Select.ingredients, List.mem_append]
      exact .inl (.inl (.inl (.inl mem)))
  | insert s =>
      simp only [ingredients, Insert.ingredients, List.mem_append]
      exact .inl (.inl (.inl mem))
  | update s =>
      simp only [ingredients, Update.ingredients, List.mem_append]
      exact .inl (.inl (.inl mem))
  | delete s =>
      simp only [ingredients, Delete.ingredients, List.mem_append]
      exact .inl (.inl mem)

/-- If all fragments expand, then no ingredient fails if and only if the selects build. -/
theorem ingredientsFine_iff {s : Statement} (expands : s.Throughout Ingredient.Expands) :
    IngredientsFine s.ingredients ↔ ∀ select, .query select ∈ s.ingredients →
      ∃ query, (Statement.select select).build = .ok query := by
  constructor
  · intro fine select mem
    exact (failureOf_eq_none _).1 (fine _ mem)
  · intro nested i mem
    cases expands i mem with
    | fragment h => exact (Fragment.expand_ok_iff _).2 h
    | function h => rfl
    | operator h => rfl
    | query h => exact (failureOf_eq_none _).2 (nested _ mem)

/-- A statement that builds without an override has all its clauses, and nothing in them fails. -/
theorem clauses_of_build {s : Statement} (built : ∃ query, s.build = .ok query)
    (unset : s.settings.override = none) : s.HasClauses ∧ IngredientsFine s.ingredients := by
  have fine : PartsFine s.parts := s.build_ok_iff.1 built
  rw [parts, Settings.parts] at fine
  cases rejected : s.settings.rejected with
  | some operator =>
      rw [rejected] at fine
      cases fine _ (List.mem_singleton_self _)
  | none =>
      rw [rejected, unset] at fine
      exact (clauseParts_require unset).fine.1 fine

/-- The exact condition for a statement to build. -/
theorem build_ok_iff_renderable {s : Statement} (expands : s.Throughout Ingredient.Expands) :
    (∃ query, s.build = .ok query)
      ↔ s.settings.rejected = none ∧ (s.settings.override ≠ none ∨ s.Renderable) := by
  rw [build_ok_iff, parts, Settings.parts]
  cases rejected : s.settings.rejected with
  | some operator =>
      refine iff_of_false (fun fine => ?_) fun h => by simp at h
      cases fine _ (List.mem_singleton_self _)
  | none =>
      rw [and_iff_right rfl]
      cases set : s.settings.override with
      | some fragment =>
          -- the clauses are not rendered, whatever is wrong with them
          have expanded : failureOf fragment.expand = none := by
            cases expands _ (mem_ingredients_of_override set) with
            | fragment h => exact fragment.expand_ok_iff.2 h
          exact iff_of_true (List.forall_mem_singleton.2 expanded) (.inl (by simp))
      | none =>
          have nested := ingredientsFine_iff expands
          have fine := (clauseParts_require set).fine.trans (and_congr_right fun _ => nested)
          rw [or_iff_right fun h => h rfl]
          exact fine.trans ⟨fun h => ⟨h.1, h.2⟩, fun h => ⟨h.clauses, h.nested⟩⟩

end Statement

/-! ## Errors -/

/-- An error of putting a statement together or of rendering it, rather than of a function call that
was never made or of an executor. -/
def QueryError.OfBuilding (e : QueryError) : Prop :=
  e ≠ .emptyFunction ∧ ∀ reason, e ≠ .execution reason ∧ e ≠ .unexpectedOutput reason

namespace Statement

theorem mem_of_parts {s : Statement} {i : Ingredient} (mem : .ingredient i ∈ s.parts) :
    i ∈ s.ingredients := by
  rw [parts, Settings.parts] at mem
  split at mem
  · simp at mem
  · split at mem
    · rename_i fragment set
      cases List.mem_singleton.1 mem
      exact mem_ingredients_of_override set
    · rename_i unset
      exact (clauseParts_require unset).among i mem

end Statement

theorem Fragment.ofBuilding_of_expandFrom {named : Nat} {cs : List Char} {params : List Value}
    {e : QueryError} (fails : failureOf (expandFrom named cs params) = some e) : e.OfBuilding := by
  induction named, cs, params using expandFrom.induct with
  | case1 named params => cases fails
  | case2 named rest =>
      cases fails
      simp [QueryError.OfBuilding]
  | case3 named rest name params ih =>
      rw [expandFrom, failureOf_map] at fails
      exact ih fails
  | case4 named rest param params other =>
      rw [expandFrom] at fails
      · cases fails
        simp [QueryError.OfBuilding]
      · exact other
  | case5 named rest single ih =>
      rw [expandFrom, failureOf_map] at fails
      · exact ih fails
      · exact single
  | case6 named rest single param params ih =>
      rw [expandFrom, failureOf_map] at fails
      · exact ih fails
      · exact single
  | case7 named c rest params pair other ih =>
      rw [expandFrom, failureOf_map] at fails
      · exact ih fails
      all_goals assumption

/-- The failures of all parts are errors of building, if those of the ingredients are. -/
theorem Statement.ofBuilding_of_ingredients {s : Statement}
    (each : ∀ i ∈ s.ingredients, ∀ e, i.failure = some e → e.OfBuilding) {e : QueryError}
    (fails : s.build = .error e) : e.OfBuilding := by
  obtain ⟨part, mem, fails⟩ := List.exists_of_findSome?_eq_some ((s.build_error_iff e).1 fails)
  cases part with
  | ingredient i => exact each i (mem_of_parts mem) e fails
  | _ =>
      cases fails
      simp [QueryError.OfBuilding, QueryError.joinWithoutConditions, QueryError.insertWithoutRows,
        QueryError.updateWithoutAssignments]

/-- Selects inside a statement fail with errors of building too, at every depth. -/
theorem Ingredient.Throughout.ofBuilding {P : Ingredient → Prop} {i : Ingredient}
    (h : i.Throughout P) : ∀ e, i.failure = some e → e.OfBuilding := by
  induction h with
  | @fragment fragment h =>
      intro e fails
      rw [Ingredient.failure, Fragment.expand, failureOf_map] at fails
      exact Fragment.ofBuilding_of_expandFrom fails
  | function h =>
      intro e fails
      cases fails
  | operator h =>
      intro e fails
      cases fails
  | @query select h ih =>
      intro e fails
      -- the induction is on the depth of selects: `ih` is about all ingredients of this one
      have each : ∀ i ∈ (Statement.select select).ingredients,
          ∀ e, i.failure = some e → e.OfBuilding := ih
      exact Statement.ofBuilding_of_ingredients each ((failureOf_eq_some _ e).1 fails)

/-! ## Programs -/

/-- The exact condition for a program to build, the error with which it fails otherwise, and the
errors that it never fails with. -/
theorem Program.builds_iff (program : Program)
    (expands : program.statement.Throughout Ingredient.Expands) :
    ((∃ query, program.statement.build = .ok query)
      ↔ program.refused = none ∧ (program.overrides ≠ [] ∨ program.statement.Renderable))
    ∧ ∀ e, program.statement.build = .error e →
      program.statement.parts.findSome? StatementPart.failure = some e
        ∧ e ≠ .emptyFunction ∧ ∀ reason, e ≠ .execution reason ∧ e ≠ .unexpectedOutput reason := by
  refine ⟨?_, fun e fails => ⟨?_, ?_⟩⟩
  · have overridden : program.statement.settings.override ≠ none ↔ program.overrides ≠ [] := by
      rw [override_statement, ne_eq, List.getLast?_eq_none_iff]
    rw [Statement.build_ok_iff_renderable expands, rejected_statement, overridden]
  · exact (program.statement.build_error_iff e).1 fails
  · exact Statement.ofBuilding_of_ingredients (fun i mem => (expands i mem).ofBuilding) fails

/-- A call with a name in a fragment, and a subquery with a join that has no conditions: everything
else is in order, and the subquery decides the error. -/
theorem Program.builds_iff_nested :
    let inner := Select.ofSteps (.named "u") [.joinOn .left (.named "v") []]
    let program := Program.select (.named "t")
      [.column (.call ⟨"Max", [.raw { sql := "??", params := [.text "a"] }]⟩),
        .filter (.inQuery .and "b" inner)]
    let e := QueryError.joinWithoutConditions "`v`"
    program.statement.Throughout Ingredient.Expands ∧ program.refused = none
      ∧ program.statement.HasClauses ∧ (Statement.select inner).build = .error e
      ∧ (¬∃ query, program.statement.build = .ok query)
      ∧ program.statement.build = .error e
      ∧ program.statement.parts.findSome? StatementPart.failure = some e := by
  intro inner program e
  have ingredients : program.statement.ingredients
      = [.function "Max", .fragment { sql := "??", params := [.text "a"] }, .operator "In",
        .query inner] := rfl
  have expands : program.statement.Throughout Ingredient.Expands := by
    have slot : slots "??".toList = [.name] := by decide
    have nested : inner.ingredients = [] := rfl
    rw [Statement.Throughout, ingredients]
    simp only [List.forall_mem_cons]
    refine ⟨.function trivial, .fragment ?_, .operator trivial, .query ?_, List.forall_mem_nil _⟩
    · rw [Ingredient.Expands, slot]
      exact trivial
    · rw [nested]
      exact List.forall_mem_nil _
  have clauses : program.statement.HasClauses := by
    refine ⟨?_, List.forall_mem_nil _⟩
    exact List.forall_mem_singleton.2 (List.forall_mem_singleton.2 (.raw _))
  have alone : (Statement.select inner).build = .error e :=
    (failureOf_eq_some _ e).1 (by decide +kernel)
  obtain ⟨success, failure⟩ := program.builds_iff expands
  have refused : ¬∃ query, program.statement.build = .ok query := by
    intro built
    rcases (success.1 built).2 with overridden | renderable
    · exact overridden rfl
    · obtain ⟨query, built⟩ := renderable.nested inner (by simp [ingredients])
      rw [alone] at built
      cases built
  have fails : program.statement.build = .error e :=
    (failureOf_eq_some _ e).1 (by decide +kernel)
  exact ⟨expands, rfl, clauses, alone, refused, fails, (failure e fails).1⟩

end SqlBuilder
