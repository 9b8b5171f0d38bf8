import SqlBuilder.Error
import SqlBuilder.Identifier
import SqlBuilder.Value

set_option autoImplicit false

/-! # Raw fragments

Literal SQL with parameters of its own. In its text `?` is a placeholder, and `??` stands for a
name: the parameter whose turn it is, which must be a text, is quoted in its place. The parameters
of the names are used up by the text, all others stay to be bound. -/

namespace SqlBuilder

/-- Literal SQL and the parameters that its placeholders take, in order. -/
structure Fragment where
  sql : String
  params : List Value := []

namespace Fragment

/-- Expands the rest of a fragment, given how many names came before and the parameters that are
left. Gives the text and the parameters to bind. Parameters without a placeholder stay at the
end. -/
def expandFrom (named : Nat) : List Char → List Value → Except QueryError (List Char × List Value)
  | [], params => .ok ([], params)
  | '?' :: '?' :: rest, params =>
    match params with
    | [] => .error (.missingName (named + 1))
    | .text name :: params =>
      (expandFrom (named + 1) rest params).map fun done =>
        ((escape name).toList ++ done.1, done.2)
    | param :: _ => .error (.notAName (param.describe ++ " in an identifier placeholder"))
  | '?' :: rest, params =>
    match params with
    | [] => (expandFrom named rest []).map fun done => ('?' :: done.1, done.2)
    | param :: params =>
      (expandFrom named rest params).map fun done => ('?' :: done.1, param :: done.2)
  | c :: rest, params => (expandFrom named rest params).map fun done => (c :: done.1, done.2)

/-- The SQL text of a fragment with its names in place, and the parameters that stay to be
bound. -/
def expand (fragment : Fragment) : Except QueryError (String × List Value) :=
  (expandFrom 0 fragment.sql.toList fragment.params).map fun done => (String.ofList done.1, done.2)

end Fragment

end SqlBuilder
