import SqlBuilder.Statement

set_option autoImplicit false

/-! # Steps that add conditions

Selects, updates, deletes and groups of conditions are filtered by the same steps. A step adds
predicates at the end of a list. An operator outside the allow-list adds nothing; the first one is
remembered and fails the statement when it is built. -/

namespace SqlBuilder

/-- Conditions under construction: the predicates so far, and the first operator that was
refused. -/
structure WhereGroup where
  predicates : List Predicate := []
  rejected : Option String := none

/-- The first of two refused operators. -/
def firstRejected (earlier later : Option String) : Option String :=
  match earlier with
  | some operator => some operator
  | none => later

mutual

/-- A condition in one of several shapes. -/
inductive Criteria where
  /-- A column equals an operand. -/
  | equal (column : String) (value : Operand)
  /-- A column is compared with an operand. -/
  | compare (column operator : String) (value : Operand)
  /-- Each column equals its operand. -/
  | equalEach (pairs : List (String × Operand))
  | raw (fragment : Fragment)
  /-- Conditions in parentheses. -/
  | group (steps : List WhereStep)

/-- A step that adds conditions, joined to what is there by its combinator. -/
inductive WhereStep where
  /-- A condition in any of its shapes. -/
  | matching (combinator : Combinator) (criteria : Criteria)
  | equal (combinator : Combinator) (column : String) (value : Operand)
  | compare (combinator : Combinator) (column operator : String) (value : Operand)
  | equalEach (combinator : Combinator) (pairs : List (String × Operand))
  | raw (combinator : Combinator) (fragment : Fragment)
  | group (combinator : Combinator) (steps : List WhereStep)
  /-- A column has one of the listed values. No values add nothing. -/
  | isIn (combinator : Combinator) (column : String) (items : List Operand)
  | isNotIn (combinator : Combinator) (column : String) (items : List Operand)
  | inQuery (combinator : Combinator) (column : String) (select : Select)
  | notInQuery (combinator : Combinator) (column : String) (select : Select)
  | isNull (combinator : Combinator) (column : String)
  | isNotNull (combinator : Combinator) (column : String)
  | between (combinator : Combinator) (column : String) (low high : Value)
  | notBetween (combinator : Combinator) (column : String) (low high : Value)
  /-- The subquery has a row. -/
  | hasRow (combinator : Combinator) (select : Select)
  | hasNoRow (combinator : Combinator) (select : Select)

end

/-- The bare word for null. -/
def nullFragment : Fragment := { sql := "Null" }

/-- The two ends of a range. -/
def rangeFragment (low high : Value) : Fragment := { sql := "? And ?", params := [low, high] }

namespace WhereGroup

/-- Adds a predicate. -/
def push (group : WhereGroup) (predicate : Predicate) : WhereGroup :=
  { group with predicates := group.predicates ++ [predicate] }

/-- Remembers a refused operator, unless there was one before. -/
def reject (group : WhereGroup) (operator : String) : WhereGroup :=
  { group with rejected := firstRejected group.rejected (some operator) }

/-- Adds a comparison with an operator that a caller gives. -/
def compare (group : WhereGroup) (combinator : Combinator) (column operator : String)
    (value : Operand) : WhereGroup :=
  if isAllowedOperator operator then
    group.push (.compare combinator (some column) operator value)
  else
    group.reject operator

/-- Adds one equality for each pair. -/
def equalEach (group : WhereGroup) (combinator : Combinator) (pairs : List (String × Operand)) :
    WhereGroup :=
  pairs.foldl (fun group pair => group.compare combinator pair.1 "=" pair.2) group

/-- Adds a test against a list of operands, unless the list is empty. -/
def compareList (group : WhereGroup) (combinator : Combinator) (column operator : String)
    (items : List Operand) : WhereGroup :=
  match items with
  | [] => group
  | items => group.push (.compare combinator (some column) operator (.list items))

/-- Adds conditions in parentheses, unless there are none, and remembers what they refused. -/
def pushGroup (group : WhereGroup) (combinator : Combinator) (inner : WhereGroup) : WhereGroup :=
  let rejected := firstRejected group.rejected inner.rejected
  match inner.predicates with
  | [] => { group with rejected }
  | predicates =>
    { predicates := group.predicates ++ [.group combinator predicates], rejected }

end WhereGroup

mutual

/-- Adds a condition in any of its shapes. -/
def Criteria.apply (combinator : Combinator) (group : WhereGroup) : Criteria → WhereGroup
  | .equal column value => group.compare combinator column "=" value
  | .compare column operator value => group.compare combinator column operator value
  | .equalEach pairs => group.equalEach combinator pairs
  | .raw fragment => group.push (.raw combinator fragment)
  | .group steps => group.pushGroup combinator (applyWhere {} steps)

/-- Takes one step. -/
def WhereStep.apply (group : WhereGroup) : WhereStep → WhereGroup
  | .matching combinator criteria => criteria.apply combinator group
  | .equal combinator column value => group.compare combinator column "=" value
  | .compare combinator column operator value => group.compare combinator column operator value
  | .equalEach combinator pairs => group.equalEach combinator pairs
  | .raw combinator fragment => group.push (.raw combinator fragment)
  | .group combinator steps => group.pushGroup combinator (applyWhere {} steps)
  | .isIn combinator column items => group.compareList combinator column "In" items
  | .isNotIn combinator column items => group.compareList combinator column "Not In" items
  | .inQuery combinator column select =>
    group.push (.compare combinator (some column) "In" (.query select))
  | .notInQuery combinator column select =>
    group.push (.compare combinator (some column) "Not In" (.query select))
  | .isNull combinator column =>
    group.push (.compare combinator (some column) "Is" (.raw nullFragment))
  | .isNotNull combinator column =>
    group.push (.compare combinator (some column) "Is Not" (.raw nullFragment))
  | .between combinator column low high =>
    group.push (.compare combinator (some column) "Between" (.raw (rangeFragment low high)))
  | .notBetween combinator column low high =>
    group.push (.compare combinator (some column) "Not Between" (.raw (rangeFragment low high)))
  | .hasRow combinator select => group.push (.compare combinator none "Exists" (.query select))
  | .hasNoRow combinator select =>
    group.push (.compare combinator none "Not Exists" (.query select))

/-- Takes steps one after the other. -/
def applyWhere (group : WhereGroup) : List WhereStep → WhereGroup
  | [] => group
  | step :: rest => applyWhere (step.apply group) rest

end

/-- The group of conditions that steps build. -/
def WhereGroup.ofSteps (steps : List WhereStep) : WhereGroup :=
  applyWhere {} steps

end SqlBuilder
