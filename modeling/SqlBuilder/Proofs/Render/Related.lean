import SqlBuilder.Proofs.Render.Outline

set_option autoImplicit false

/-! # Renderings side by side

A relation between renderings that is closed under the ways in which renderings are put together
relates everything that is outlined: a statement to the one with other scalars in its bound
positions. What such a relation says about one rendering or about two is therefore proved for the ways
of putting renderings together, and holds of all statements. -/

namespace SqlBuilder

/-! ## Fragments -/

theorem substituteParams_nil (σ : Value → Value) (slots : List Slot) :
    substituteParams σ slots [] = [] := by
  cases slots <;> rfl

/-- Expansion looks only at the parameters that are taken by names. -/
theorem Fragment.expandFrom_substitute (σ : Value → Value) (named : Nat) (cs : List Char)
    (params : List Value) :
    expandFrom named cs (substituteParams σ (slots cs) params)
      = (expandFrom named cs params).map fun done => (done.1, done.2.map σ) := by
  induction named, cs, params using expandFrom.induct with
  | case1 named params => rfl
  | case2 named rest => rfl
  | case3 named rest name params ih =>
      rw [slots, substituteParams, expandFrom, expandFrom, ih]
      cases expandFrom (named + 1) rest params <;> rfl
  | case4 named rest param params other =>
      rw [slots, substituteParams, expandFrom, expandFrom]
      · rfl
      · exact other
      · exact other
  | case5 named rest single ih =>
      rw [substituteParams_nil] at ih ⊢
      rw [expandFrom]
      · -- without parameters both sides make the same call, and only one of them is to be rewritten
        conv_lhs => rw [ih]
        cases expandFrom named rest [] <;> rfl
      · exact single
  | case6 named rest single param params ih =>
      rw [slots, substituteParams, expandFrom, expandFrom, ih]
      · cases expandFrom named rest params <;> rfl
      all_goals exact single
  | case7 named c rest params single other ih =>
      rw [slots, expandFrom, expandFrom, ih]
      · cases expandFrom named rest params <;> rfl
      all_goals assumption

theorem Fragment.expand_substitute (σ : Value → Value) (fragment : Fragment) :
    (fragment.substitute σ).expand
      = fragment.expand.map fun done => (done.1, done.2.map σ) := by
  unfold expand
  rw [substitute, expandFrom_substitute]
  cases expandFrom 0 fragment.sql.toList fragment.params <;> rfl

/-! ## Closed relations -/

/-- A relation between renderings with one clause for each way of putting them together. Values are
bound on the one side as they are and on the other side replaced. -/
structure Render.Parametric (σ : Value → Value) (Rel : ∀ α : Type, Render α → Render α → Prop) :
    Prop where
  pure {α : Type} (a : α) : Rel α (Pure.pure a) (Pure.pure a)
  throw {α : Type} (e : QueryError) : Rel α (MonadExcept.throw e) (MonadExcept.throw e)
  bindAll (values : List Value) : Rel Unit (bindAll values) (SqlBuilder.bindAll (values.map σ))
  bind {α β : Type} {r r' : Render α} {f f' : α → Render β} (hr : Rel α r r')
    (hf : ∀ a, Rel β (f a) (f' a)) : Rel β (r >>= f) (r' >>= f')
  subquery {r r' : Render String} (hr : Rel String r r') :
    Rel String (subquery r) (SqlBuilder.subquery r')

section Related

variable {σ : Value → Value} {Rel : ∀ α : Type, Render α → Render α → Prop}
  (h : Render.Parametric σ Rel)

include h

namespace Render.Parametric

theorem append {a a' b b' : Render String} (ha : Rel String a a') (hb : Rel String b b') :
    Rel String (a ++ b) (a' ++ b') :=
  h.bind ha fun _ => h.bind hb fun _ => h.pure _

theorem placeholder (v : Value) : Rel String (placeholder v) (SqlBuilder.placeholder (σ v)) :=
  h.bind (h.bindAll [v]) fun _ => h.pure "?"

theorem fragment (fragment : Fragment) :
    Rel String fragment.render (fragment.substitute σ).render := by
  unfold Fragment.render
  rw [Fragment.expand_substitute]
  cases fragment.expand with
  | error e => exact h.throw e
  | ok done => exact h.bind (h.bindAll done.2) fun _ => h.pure done.1

theorem outlined {ings : List Ingredient} {r r' : Render String} {outline : Outline}
    (ho : Outlined σ ings r r' outline) : Rel String r r' := by
  induction ho with
  | plain written => exact h.pure _
  | operator mem => exact h.pure _
  | placeholder v => exact h.placeholder v
  | fragment mem => exact h.fragment _
  | subquery mem inner ih => exact h.subquery ih
  | throw shown values fails => exact h.throw _
  | unmatched shown values inner ih => exact h.bind ih fun _ => h.throw _
  | skip part fine rest ih => exact ih
  | parens inner ih => exact h.append (h.pure _) (h.append ih (h.pure _))
  | call mem inner ih => exact h.append (h.pure _) (h.append ih (h.pure _))
  | between first inner last ih => exact h.append (h.pure _) (h.append ih (h.pure _))
  | separated ha separator word hb iha ihb => exact h.append iha (h.append (h.pure _) ihb)

theorem outlinedEach {ings : List Ingredient} {ι β : Type} {tag : ι → String → β}
    {rs rs' : Render (List β)} {shown : List β} {values : List Value} {parts : List StatementPart}
    (ho : OutlinedEach σ ings tag rs rs' shown values parts) : Rel (List β) rs rs' := by
  induction ho with
  | nil => exact h.pure _
  | cons i first rest ih => exact h.bind (h.outlined first) fun _ => h.bind ih fun _ => h.pure _

end Render.Parametric

end Related

end SqlBuilder
