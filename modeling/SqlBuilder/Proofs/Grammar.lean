import SqlBuilder.Proofs.Display
import SqlBuilder.Proofs.Ingredients

set_option autoImplicit false

/-! # A grammar of SQL texts

Texts are put together from words of the language, quoted names, placeholders and the ingredients of
the statement, one after the other and in parentheses. The grammar relates such a text to the values
that it binds and to the text in which the values are written out. Here are its rules, and that
names and the clauses which bind nothing are written. -/

namespace SqlBuilder

/-! ## Texts and separators -/

/-- Texts with a comma before each. -/
def commasEnd (texts : List String) : String :=
  String.join (texts.map (", " ++ ·))

theorem commas_cons (text : String) (after : List String) :
    commas (text :: after) = text ++ commasEnd after := by
  induction after generalizing text with
  | nil => simp [commas, commasEnd]
  | cons next rest ih =>
      have second : commas (text :: next :: rest) = text ++ ", " ++ commas (next :: rest) :=
        String.intercalate_cons_cons
      rw [second, ih, commasEnd, commasEnd, List.map_cons, String.join_cons, String.append_assoc,
        String.append_assoc]

/-- The characters of keywords, numbers and separators. -/
def isWordChar (c : Char) : Bool :=
  c.isAlphanum || c == ' ' || c == ',' || c == '.' || c == '*' || c == '='

/-! ## Rules -/

/-- A text, the values that it binds, and the text with its values written out, made of words, names,
placeholders and ingredients with a property. -/
inductive Written (P : Ingredient → Prop) : String → List Value → String → Prop
  | word (text : String) (h : text.toList.all isWordChar = true) : Written P text [] text
  | quoted (name : String) : Written P (quote name) [] (quote name)
  | operator {operator : String} (h : P (.operator operator)) : Written P operator [] operator
  | function {name : String} (h : P (.function name)) : Written P name [] name
  | placeholder (v : Value) : Written P "?" [v] v.debugLiteral
  | fragment {fragment : Fragment} {sql : String} {params : List Value}
      (h : P (.fragment fragment)) (expands : fragment.expand = .ok (sql, params)) :
      Written P sql params fragment.display
  | append {a b x y : String} {params more : List Value} (first : Written P a params x)
      (second : Written P b more y) : Written P (a ++ b) (params ++ more) (x ++ y)
  | parens {a x : String} {params : List Value} (inner : Written P a params x) :
      Written P ("(" ++ a ++ ")") params ("(" ++ x ++ ")")

namespace Written

variable {P : Ingredient → Prop}

/-! ## Texts that bind nothing -/

/-- A text that binds no values. -/
theorem append_plain {a b x y : String} {params : List Value} (first : Written P a params x)
    (second : Written P b [] y) : Written P (a ++ b) params (x ++ y) := by
  simpa using first.append second

theorem plain_append {a b x y : String} {params : List Value} (first : Written P a [] x)
    (second : Written P b params y) : Written P (a ++ b) params (x ++ y) :=
  first.append second

/-- Two texts with a blank between them, the first of which binds no values. -/
theorem plain_spaced {a b x y : String} {params : List Value} (first : Written P a [] x)
    (second : Written P b params y) : Written P (a ++ " " ++ b) params (x ++ " " ++ y) :=
  (first.append_plain (word _ (by decide))).plain_append second

theorem number (n : Nat) : Written P n.repr [] n.repr := by
  apply word
  simp only [Nat.repr, String.toList_ofList, List.all_eq_true]
  intro c hc
  have digit : c.isDigit = true := Nat.isDigit_of_mem_toDigits (by decide) (by decide) hc
  simp [isWordChar, Char.isAlphanum, digit]

theorem keyword (c : Combinator) : Written P c.keyword [] c.keyword := by
  cases c <;> exact word _ (by decide)

theorem direction (d : Direction) : Written P d.keyword [] d.keyword := by
  cases d <;> exact word _ (by decide)

/-! ## Lists -/

/-- Texts that bind no values, with a separator between them. -/
theorem intercalate (separator : String) (word : separator.toList.all isWordChar = true)
    {as : List String} (h : ∀ a ∈ as, Written P a [] a) :
    Written P (separator.intercalate as) [] (separator.intercalate as) := by
  induction as with
  | nil => exact .word "" (by decide)
  | cons first rest ih =>
      obtain ⟨hf, hr⟩ := List.forall_mem_cons.1 h
      -- the last text has no separator after it
      cases rest with
      | nil => simpa using hf
      | cons second rest =>
          simp only [String.intercalate_cons_cons] at ih ⊢
          exact (hf.append_plain (.word separator word)).plain_append (ih hr)

theorem commas {as : List String} (h : ∀ a ∈ as, Written P a [] a) :
    Written P (commas as) [] (commas as) :=
  intercalate ", " (by decide) h

/-! ## Names -/

theorem identifierPart (part : IdentifierPart) : Written P part.toSql [] part.toSql := by
  cases part with
  | name text => exact quoted text
  | wildcard => exact word _ (by decide)

theorem identifier (i : Identifier) : Written P i.toSql [] i.toSql :=
  intercalate "." (by decide) (List.forall_mem_map.2 fun part _ => identifierPart part)

/-- A name is a chain of dotted names, each of which is quoted. -/
theorem name (name : String) : Written P (escape name) [] (escape name) :=
  intercalate " as " (by decide) (List.forall_mem_map.2 fun i _ => identifier i)

theorem names (names : List String) :
    Written P (SqlBuilder.commas (names.map escape)) [] (SqlBuilder.commas (names.map escape)) :=
  commas (List.forall_mem_map.2 fun name _ => Written.name name)

/-! ## Clauses -/

theorem labelText {sql shown : String} {params : List Value} (label : Option String)
    (h : Written P sql params shown) :
    Written P (labelText sql label) params (labelText shown label) := by
  cases label with
  | none => exact h
  | some label => exact (h.append_plain (word " as " (by decide))).append_plain (name label)

theorem groupByText (columns : List String) :
    Written P (groupByText columns) [] (groupByText columns) := by
  cases columns with
  | nil => exact word _ (by decide)
  | cons column rest =>
      exact (word " Group By " (by decide)).plain_append (names (column :: rest))

theorem insertColumnsText (columns : List String) :
    Written P (insertColumnsText columns) [] (insertColumnsText columns) := by
  cases columns with
  | nil => exact word _ (by decide)
  | cons column rest =>
      have text := (word " " (by decide)).plain_append (names (P := P) (column :: rest)).parens
      rw [← String.append_assoc, ← String.append_assoc] at text
      exact text

theorem orderByText (items : List OrderItem) :
    Written P (orderByText items) [] (orderByText items) := by
  have item (i : OrderItem) : Written P i.text [] i.text :=
    (name i.column).plain_spaced (direction i.direction)
  cases items with
  | nil => exact word _ (by decide)
  | cons first rest =>
      exact (word " Order By " (by decide)).plain_append
        (commas (List.forall_mem_map.2 fun i _ => item i))

theorem limitText (limit : Option Limit) : Written P (limitText limit) [] (limitText limit) := by
  unfold SqlBuilder.limitText
  have keyword : Written P " Limit " [] " Limit " := word _ (by decide)
  split
  · rename_i count offset
    have offset := keyword.plain_append (number offset)
    exact (offset.plain_append (word ", " (by decide))).plain_append (number count)
  · rename_i count
    exact keyword.plain_append (number count)
  · exact word _ (by decide)

theorem tail (tail : Tail) : Written P tail.text [] tail.text :=
  (orderByText tail.orderBy).plain_append (limitText tail.limit)

end Written

end SqlBuilder
