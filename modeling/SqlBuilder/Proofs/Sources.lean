import SqlBuilder.Proofs.Ingredients
import SqlBuilder.Proofs.Substitute

set_option autoImplicit false

/-! # Where bound values come from

A value that is bound comes from a scalar where a value is expected, from a fragment, or from a
select, which has sources of its own. The sources of an operand are listed in the order of the text,
without looking into selects. They *yield* the scalars in the bound positions of the operand, and
their selects are among its ingredients. -/

namespace SqlBuilder

/-- What binds values. -/
inductive Source where
  | value (v : Value)
  | query (select : Select)

/-- The values that a source binds. -/
def Source.scalars : Source → List Value
  | .value v => [v]
  | .query select => select.scalars

/-! ## Sources -/

/-- The parameters of a fragment that are not taken by names. -/
def Fragment.sources (fragment : Fragment) : List Source :=
  fragment.scalars.map .value

mutual

/-- The sources of an operand where a name is expected: names are not bound. -/
def Operand.nameSources : Operand → List Source
  | .value _ => []
  | .list _ => []
  | .raw fragment => fragment.sources
  | .call call => call.nameSources
  | .query select => [.query select]

/-- The sources of a call whose arguments are names. -/
def Call.nameSources : Call → List Source
  | ⟨_, args⟩ => nameSources args

/-- The sources of operands where names are expected. -/
def nameSources : List Operand → List Source
  | [] => []
  | operand :: rest => operand.nameSources ++ nameSources rest

end

mutual

/-- The sources of an operand where a value is expected. -/
def Operand.valueSources : Operand → List Source
  | .value v => [.value v]
  | .list items => valueSources items
  | .raw fragment => fragment.sources
  | .call call => call.valueSources
  | .query select => [.query select]

/-- The sources of a call whose arguments are values. -/
def Call.valueSources : Call → List Source
  | ⟨_, args⟩ => valueSources args

/-- The sources of operands where values are expected. -/
def valueSources : List Operand → List Source
  | [] => []
  | operand :: rest => operand.valueSources ++ valueSources rest

end

/-- The sources of what is selected. -/
def ColumnExpr.sources : ColumnExpr → List Source
  | .name _ => []
  | .raw fragment => fragment.sources
  | .call c => c.nameSources
  | .query select => [.query select]

/-- The sources of a table. -/
def Table.sources : Table → List Source
  | .named _ => []
  | .labelled _ _ => []
  | .derived select _ => [.query select]

/-- The sources of the right side of a comparison between columns. -/
def JoinKey.sources : JoinKey → List Source
  | .column _ => []
  | .raw fragment => fragment.sources

/-- The sources of operands that are paired with columns. -/
def pairSources (pairs : List (String × Operand)) : List Source :=
  pairs.flatMap fun pair => pair.2.valueSources

/-! ## What sources yield -/

/-- The sources bind these values, and the selects among them are among these ingredients. -/
structure Yield (sources : List Source) (values : List Value) (ingredients : List Ingredient) :
    Prop where
  values : sources.flatMap Source.scalars = values
  queries : ∀ select, .query select ∈ sources → .query select ∈ ingredients

namespace Yield

variable {sources more : List Source} {values others : List Value}
  {ingredients rest : List Ingredient}

theorem nil (ingredients : List Ingredient) : Yield [] [] ingredients :=
  ⟨rfl, fun _ mem => by cases mem⟩

theorem append (first : Yield sources values ingredients) (second : Yield more others rest) :
    Yield (sources ++ more) (values ++ others) (ingredients ++ rest) := by
  refine ⟨?_, fun select mem => ?_⟩
  · rw [List.flatMap_append, first.values, second.values]
  · rcases List.mem_append.1 mem with h | h
    · exact List.mem_append_left _ (first.queries select h)
    · exact List.mem_append_right _ (second.queries select h)

/-- Ingredients without values may be added. -/
theorem mono (yields : Yield sources values ingredients) (among : ingredients ⊆ rest) :
    Yield sources values rest :=
  ⟨yields.values, fun select mem => among (yields.queries select mem)⟩

theorem cons (i : Ingredient) (yields : Yield sources values ingredients) :
    Yield sources values (i :: ingredients) :=
  yields.mono (List.subset_cons_self i ingredients)

theorem value (v : Value) : Yield [.value v] [v] [] := by
  refine ⟨rfl, fun select mem => ?_⟩
  cases List.mem_singleton.1 mem

theorem query (select : Select) : Yield [.query select] select.scalars [.query select] := by
  refine ⟨List.append_nil _, fun other mem => ?_⟩
  cases List.mem_singleton.1 mem
  exact List.mem_singleton_self _

theorem fragment (fragment : Fragment) (ingredients : List Ingredient) :
    Yield fragment.sources fragment.scalars ingredients := by
  unfold Fragment.sources
  refine ⟨?_, fun select mem => ?_⟩
  · rw [List.flatMap_map]
    exact List.flatMap_singleton' _
  · obtain ⟨v, -, same⟩ := List.mem_map.1 mem
    cases same

/-- What each of several entries yields, they yield together. -/
theorem flatMap {ι : Type} {sources : ι → List Source} {values : ι → List Value}
    {ingredients : ι → List Ingredient} {entries : List ι}
    (each : ∀ entry ∈ entries, Yield (sources entry) (values entry) (ingredients entry)) :
    Yield (entries.flatMap sources) (entries.flatMap values) (entries.flatMap ingredients) := by
  induction entries with
  | nil => exact .nil _
  | cons entry rest ih =>
      obtain ⟨first, others⟩ := List.forall_mem_cons.1 each
      simp only [List.flatMap_cons]
      exact first.append (ih others)

end Yield

/-! ## Operands -/

mutual

theorem Operand.nameSources_yield :
    ∀ operand : Operand, Yield operand.nameSources operand.nameScalars operand.ingredients
  | .value v => by
      simp only [Operand.nameSources, Operand.nameScalars]
      exact .nil _
  | .list items => by
      simp only [Operand.nameSources, Operand.nameScalars]
      exact .nil _
  | .raw fragment => by
      simp only [Operand.nameSources, Operand.nameScalars]
      exact .fragment fragment _
  | .call call => by
      simp only [Operand.nameSources, Operand.nameScalars, Operand.ingredients]
      exact Call.nameSources_yield call
  | .query select => by
      simp only [Operand.nameSources, Operand.nameScalars, Operand.ingredients]
      exact .query select

theorem Call.nameSources_yield :
    ∀ call : Call, Yield call.nameSources call.nameScalars call.ingredients
  | ⟨name, args⟩ => by
      simp only [Call.nameSources, Call.nameScalars, Call.ingredients]
      exact (nameSources_yield args).cons _

theorem nameSources_yield :
    ∀ operands : List Operand,
      Yield (nameSources operands) (nameScalars operands) (operandIngredients operands)
  | [] => by
      simp only [nameSources, nameScalars]
      exact .nil _
  | operand :: rest => by
      simp only [nameSources, nameScalars, operandIngredients]
      exact (Operand.nameSources_yield operand).append (nameSources_yield rest)

end

mutual

theorem Operand.valueSources_yield :
    ∀ operand : Operand, Yield operand.valueSources operand.valueScalars operand.ingredients
  | .value v => by
      simp only [Operand.valueSources, Operand.valueScalars, Operand.ingredients]
      exact .value v
  | .list items => by
      simp only [Operand.valueSources, Operand.valueScalars, Operand.ingredients]
      exact valueSources_yield items
  | .raw fragment => by
      simp only [Operand.valueSources, Operand.valueScalars]
      exact .fragment fragment _
  | .call call => by
      simp only [Operand.valueSources, Operand.valueScalars, Operand.ingredients]
      exact Call.valueSources_yield call
  | .query select => by
      simp only [Operand.valueSources, Operand.valueScalars, Operand.ingredients]
      exact .query select

theorem Call.valueSources_yield :
    ∀ call : Call, Yield call.valueSources call.valueScalars call.ingredients
  | ⟨name, args⟩ => by
      simp only [Call.valueSources, Call.valueScalars, Call.ingredients]
      exact (valueSources_yield args).cons _

theorem valueSources_yield :
    ∀ operands : List Operand,
      Yield (valueSources operands) (valueScalars operands) (operandIngredients operands)
  | [] => by
      simp only [valueSources, valueScalars]
      exact .nil _
  | operand :: rest => by
      simp only [valueSources, valueScalars, operandIngredients]
      exact (Operand.valueSources_yield operand).append (valueSources_yield rest)

end

theorem pairSources_yield (pairs : List (String × Operand)) :
    Yield (pairSources pairs) (pairs.flatMap fun pair => pair.2.valueScalars)
      (pairIngredients pairs) :=
  .flatMap fun pair _ => pair.2.valueSources_yield

/-! ## Parts of clauses -/

theorem ColumnExpr.sources_yield (expr : ColumnExpr) :
    Yield expr.sources expr.scalars expr.ingredients := by
  cases expr with
  | name name =>
      rw [ColumnExpr.scalars]
      exact .nil _
  | raw fragment =>
      rw [ColumnExpr.scalars]
      exact .fragment fragment _
  | call call =>
      rw [ColumnExpr.scalars]
      exact call.nameSources_yield
  | query select =>
      rw [ColumnExpr.scalars]
      exact .query select

theorem Table.sources_yield (table : Table) :
    Yield table.sources table.scalars table.ingredients := by
  cases table with
  | named name =>
      rw [Table.scalars]
      exact .nil _
  | labelled name label =>
      rw [Table.scalars]
      exact .nil _
  | derived select label =>
      rw [Table.scalars]
      exact .query select

theorem JoinKey.sources_yield (key : JoinKey) : Yield key.sources key.scalars key.ingredients := by
  cases key with
  | column name => exact .nil _
  | raw fragment => exact .fragment fragment _

end SqlBuilder
