import SqlBuilder.Render
import SqlBuilder.Value

set_option autoImplicit false

/-! # Built queries

The SQL text of a statement with the values of its placeholders, as an executor takes them, and the
debug SQL in which the values stand in the places of the placeholders. -/

namespace SqlBuilder

/-- SQL text and the values of its placeholders. -/
structure Query where
  sql : String
  params : List Value

/-- Marks the placeholders of a text: every `?` outside quoted names. A delimiter opens a quoted
name, or closes the open one; a doubled delimiter closes it and opens it again. -/
def markPlaceholders (quoted : Bool) : List Char → List (Char × Bool)
  | [] => []
  | c :: rest =>
    let quoted := if c = delimiter then !quoted else quoted
    (c, c == '?' && !quoted) :: markPlaceholders quoted rest

/-- Puts values in the places of the placeholders, as long as there are values. -/
def fillPlaceholders : List (Char × Bool) → List Value → List Char
  | [], _ => []
  | (_, true) :: rest, v :: values => v.debugLiteral.toList ++ fillPlaceholders rest values
  | (c, _) :: rest, values => c :: fillPlaceholders rest values

namespace Query

/-- How many placeholders the text has. -/
def placeholderCount (query : Query) : Nat :=
  (markPlaceholders false query.sql.toList).countP (·.2)

/-- The text with its values as literals in the places of the placeholders. -/
def debugSql (query : Query) : String :=
  String.ofList (fillPlaceholders (markPlaceholders false query.sql.toList) query.params)

end Query

namespace Statement

/-- Renders a statement on its own. -/
def outcome (s : Statement) : Except QueryError String × Bindings :=
  s.render.run {}

/-- The query of a statement. -/
def build (s : Statement) : Except QueryError Query :=
  match s.outcome with
  | (.ok sql, bindings) => .ok ⟨sql, bindings.params⟩
  | (.error e, _) => .error e

/-- The debug SQL of a statement. -/
def debugSql (s : Statement) : Except QueryError String :=
  s.build.map Query.debugSql

end Statement

end SqlBuilder
