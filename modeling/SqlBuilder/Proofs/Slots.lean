import Mathlib.Data.List.Forall2
import SqlBuilder.Query
import SqlBuilder.Steps.Where

set_option autoImplicit false

/-! # The slots of a fragment

The places in the text of a fragment that take a parameter, what a fragment expands to slot by slot,
and fragments that have the parameters which their text asks for. -/

namespace SqlBuilder

/-- What a place in the text of a fragment takes. -/
inductive Slot where
  /-- A `?`, which stays as a placeholder. -/
  | value
  /-- A `??`, which is replaced by a quoted name. -/
  | name
deriving DecidableEq, Repr

/-- The slots of a text from left to right. -/
def slots : List Char → List Slot
  | [] => []
  | '?' :: '?' :: rest => .name :: slots rest
  | '?' :: rest => .value :: slots rest
  | _ :: rest => slots rest

/-- A slot for a name takes texts only. -/
def Slot.Takes : Slot → Value → Prop
  | value, _ => True
  | name, v => ∃ text, v = .text text

/-- A fragment whose quotes are closed, whose question marks are outside quotes, and whose slots have
one fitting parameter each. -/
structure Fragment.WellFormed (fragment : Fragment) : Prop where
  closed : fragment.sql.toList.count delimiter % 2 = 0
  bare : ∀ mark ∈ markPlaceholders false fragment.sql.toList, mark.1 = '?' → mark.2 = true
  taken : List.Forall₂ Slot.Takes (slots fragment.sql.toList) fragment.params

/-! ## Expansions -/

/-- How the text of a fragment and its parameters turn into the expanded text and the parameters that
are left to be bound. -/
inductive Expansion : List Char → List Value → List Char → List Value → Prop
  | done (params : List Value) : Expansion [] params [] params
  | name {rest out : List Char} {params left : List Value} (name : String)
      (tail : Expansion rest params out left) :
      Expansion ('?' :: '?' :: rest) (.text name :: params) ((escape name).toList ++ out) left
  | value {rest out : List Char} {params left : List Value} (param : Value)
      (single : ∀ more, rest ≠ '?' :: more) (tail : Expansion rest params out left) :
      Expansion ('?' :: rest) (param :: params) ('?' :: out) (param :: left)
  /-- A placeholder without a parameter. -/
  | unfilled {rest out : List Char} {left : List Value} (single : ∀ more, rest ≠ '?' :: more)
      (tail : Expansion rest [] out left) : Expansion ('?' :: rest) [] ('?' :: out) left
  | char {c : Char} {rest out : List Char} {params left : List Value} (other : c ≠ '?')
      (tail : Expansion rest params out left) : Expansion (c :: rest) params (c :: out) left

/-- A step of an expansion succeeds if the rest of the expansion does. -/
theorem map_eq_ok {α β : Type} {f : α → β} {x : Except QueryError α} {b : β}
    (h : x.map f = .ok b) : ∃ a, x = .ok a ∧ f a = b := by
  cases x with
  | error e => cases h
  | ok a => exact ⟨a, rfl, Except.ok.inj h⟩

theorem Fragment.expansion_of_ok {named : Nat} {cs out : List Char} {params left : List Value}
    (expands : expandFrom named cs params = .ok (out, left)) : Expansion cs params out left := by
  induction named, cs, params using expandFrom.induct generalizing out left with
  | case1 named params =>
      cases expands
      exact .done params
  | case2 named rest => cases expands
  | case3 named rest name params ih =>
      rw [expandFrom] at expands
      obtain ⟨_, tail, rfl, rfl⟩ := map_eq_ok expands
      exact .name name (ih tail)
  | case4 named rest param params other =>
      rw [expandFrom] at expands
      · cases expands
      · exact other
  | case5 named rest single ih =>
      rw [expandFrom] at expands
      · obtain ⟨_, tail, rfl, rfl⟩ := map_eq_ok expands
        exact .unfilled single (ih tail)
      · exact single
  | case6 named rest single param params ih =>
      rw [expandFrom] at expands
      · obtain ⟨_, tail, rfl, rfl⟩ := map_eq_ok expands
        exact .value param single (ih tail)
      · exact single
  | case7 named c rest params pair other ih =>
      rw [expandFrom] at expands
      · obtain ⟨_, tail, rfl, rfl⟩ := map_eq_ok expands
        exact .char other (ih tail)
      · exact pair
      · exact other

/-- The expansion of a whole fragment. -/
theorem Fragment.expansion {fragment : Fragment} {sql : String} {params : List Value}
    (expands : fragment.expand = .ok (sql, params)) :
    Expansion fragment.sql.toList fragment.params sql.toList params := by
  obtain ⟨⟨out, left⟩, inner, same⟩ := map_eq_ok expands
  cases same
  rw [String.toList_ofList]
  exact expansion_of_ok inner

/-! ## Fragments that steps add -/

theorem expand_nullFragment : nullFragment.expand = .ok ("Null", []) := rfl

theorem expand_rangeFragment (low high : Value) :
    (rangeFragment low high).expand = .ok ("? And ?", [low, high]) := by
  have text : "? And ?".toList = ['?', ' ', 'A', 'n', 'd', ' ', '?'] := by decide
  simp [Fragment.expand, rangeFragment, text, Fragment.expandFrom, Except.map]

theorem expand_star : Fragment.expand { sql := "*" } = .ok ("*", []) := rfl

end SqlBuilder
