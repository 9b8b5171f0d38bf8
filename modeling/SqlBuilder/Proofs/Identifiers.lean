import SqlBuilder.Proofs.AliasChains
import SqlBuilder.Proofs.Lexing

set_option autoImplicit false

/-! # Written names are uniquely readable

A reader of names takes quoted names, wildcards, dots and the marks before aliases, and nothing
else. It reads the text of an identifier back as its parts without their NULs, so identifiers have
the same text only if they are the same up to NULs. What is written for a string is read back as the
chain of identifiers that the string spells: it is cut at the first mark of an alias, the trimmed
halves are cut in the same way, and what cannot be cut is split at its dots. -/

namespace SqlBuilder

/-! ## The reader -/

/-- What a text of names is made of. -/
inductive NameToken where
  | part (part : IdentifierPart)
  | dot
  /-- The mark before an alias. -/
  | label
deriving DecidableEq, Repr

/-- The tokens of a text of names, if it is one. -/
def nameTokens : List Lexeme → Option (List NameToken)
  | [] => some []
  | .name text :: rest => (nameTokens rest).map (.part (.name (String.ofList text)) :: ·)
  | .bare '*' :: rest => (nameTokens rest).map (.part .wildcard :: ·)
  | .bare '.' :: rest => (nameTokens rest).map (.dot :: ·)
  | .bare ' ' :: .bare 'a' :: .bare 's' :: .bare ' ' :: rest => (nameTokens rest).map (.label :: ·)
  | _ => none

/-- A single part. -/
def readPart : List NameToken → Option IdentifierPart
  | [.part part] => some part
  | _ => none

/-- A dotted name: single parts between dots, or nothing at all. -/
def readDotted (tokens : List NameToken) : Option Identifier :=
  if tokens = [] then some ⟨[]⟩ else ((tokens.splitOn .dot).mapM readPart).map Identifier.mk

/-- A chain of dotted names between marks of aliases. -/
def readNames (sql : String) : Option (List Identifier) := do
  let tokens ← nameTokens (lex sql.toList)
  (tokens.splitOn .label).mapM readDotted

/-- A part as it is read back. -/
def IdentifierPart.withoutNul : IdentifierPart → IdentifierPart
  | name text => name (String.ofList (SqlBuilder.withoutNul text.toList))
  | wildcard => wildcard

/-- An identifier as it is read back. -/
def Identifier.withoutNul (identifier : Identifier) : Identifier :=
  ⟨identifier.parts.map IdentifierPart.withoutNul⟩

/-! ## Tokens of written names -/

/-- The tokens of a text are found whatever follows it, except that a name must not follow at
once. -/
def HasTokens (sql : List Char) (tokens : List NameToken) : Prop :=
  ∀ rest, rest.head? ≠ some delimiter →
    nameTokens (lex (sql ++ rest)) = (nameTokens (lex rest)).map (tokens ++ ·)

/-- A text is a token of its own, whatever follows it. -/
def IsMark (sql : List Char) (token : NameToken) : Prop :=
  ∀ rest, nameTokens (lex (sql ++ rest)) = (nameTokens (lex rest)).map (token :: ·)

theorem isMark_dot : IsMark ['.'] .dot := by
  intro rest
  rw [lex, List.singleton_append, lexFrom_bare (by decide), nameTokens, lex]

theorem isMark_star : IsMark ['*'] (.part .wildcard) := by
  intro rest
  rw [lex, List.singleton_append, lexFrom_bare (by decide), nameTokens, lex]

theorem isMark_aliasMark : IsMark Identifier.aliasMark .label := by
  intro rest
  have read : lexFrom none (Identifier.aliasMark ++ rest)
      = .bare ' ' :: .bare 'a' :: .bare 's' :: .bare ' ' :: lexFrom none rest := by
    simp only [Identifier.aliasMark, List.cons_append, List.nil_append]
    rw [lexFrom_bare (by decide), lexFrom_bare (by decide), lexFrom_bare (by decide),
      lexFrom_bare (by decide)]
  rw [lex, read, nameTokens, lex]

namespace HasTokens

theorem nil : HasTokens [] [] := by
  intro rest _
  rw [List.nil_append]
  cases nameTokens (lex rest) <;> rfl

theorem part (part : IdentifierPart) : HasTokens part.toSql.toList [.part part.withoutNul] := by
  intro rest single
  cases part with
  | wildcard => exact isMark_star rest
  | name text =>
      rw [IdentifierPart.toSql, quote, String.toList_ofList, lex, lexFrom_quoteChars _ single]
      rfl

/-- Texts with a mark between them. The mark does not begin like a name, so the text before it is
read as on its own. -/
theorem intercalate {α : Type} {text : α → List Char} {tokens : α → List NameToken}
    {separator : List Char} {mark : NameToken} (isMark : IsMark separator mark)
    (apart : ∀ rest, (separator ++ rest).head? ≠ some delimiter) {as : List α}
    (each : ∀ a ∈ as, HasTokens (text a) (tokens a)) :
    HasTokens (separator.intercalate (as.map text)) ([mark].intercalate (as.map tokens)) := by
  induction as with
  | nil => exact nil
  | cons a rest ih =>
      obtain ⟨first, others⟩ := List.forall_mem_cons.1 each
      cases rest with
      | nil => simpa using first
      | cons b rest =>
          intro after single
          have tail := ih others after single
          simp only [List.map_cons, List.intercalate_cons_cons, List.append_assoc] at tail ⊢
          rw [first _ (apart _), isMark, tail, Option.map_map, Option.map_map]
          rfl

end HasTokens

namespace Identifier

/-- The tokens of an identifier. -/
def tokens (i : Identifier) : List NameToken :=
  [.dot].intercalate (i.parts.map fun part => [.part part.withoutNul])

theorem hasTokens (i : Identifier) : HasTokens i.toSql.toList i.tokens := by
  rw [toSql, String.toList_intercalate, List.map_map]
  exact .intercalate isMark_dot (by simp [delimiter]) fun part _ => .part part

theorem label_not_mem_tokens (i : Identifier) : NameToken.label ∉ i.tokens := by
  rw [tokens]
  induction i.parts with
  | nil => simp
  | cons first rest ih =>
      cases rest with
      | nil => simp
      | cons second rest => simpa [List.intercalate_cons_cons] using ih

theorem readDotted_tokens (i : Identifier) : readDotted i.tokens = some i.withoutNul := by
  obtain ⟨parts⟩ := i
  cases parts with
  | nil => rfl
  | cons first rest =>
      have some_part : tokens ⟨first :: rest⟩ ≠ [] := by
        cases rest <;> simp [tokens, List.intercalate_cons_cons]
      rw [readDotted, if_neg some_part, tokens, List.splitOn_intercalate _ (by simp) (by simp),
        List.mapM_map]
      exact congrArg (Option.map mk) List.mapM_pure

/-- The text of a chain of identifiers is read back as the chain, up to NULs. -/
theorem readNames_chain {chain : List Identifier} (some_name : chain ≠ []) :
    readNames (" as ".intercalate (chain.map toSql)) = some (chain.map withoutNul) := by
  have text : HasTokens (" as ".intercalate (chain.map toSql)).toList
      ([.label].intercalate (chain.map tokens)) := by
    rw [String.toList_intercalate, List.map_map]
    exact .intercalate isMark_aliasMark (by simp [aliasMark, delimiter]) fun i _ => i.hasTokens
  have read := text [] (by simp)
  rw [List.append_nil] at read
  have apart : ∀ names ∈ chain.map tokens, NameToken.label ∉ names := by
    simpa using fun i _ => i.label_not_mem_tokens
  rw [readNames, read]
  calc (([NameToken.label].intercalate (chain.map tokens) ++ []).splitOn NameToken.label).mapM
        readDotted
    _ = (chain.map tokens).mapM readDotted := by
        rw [List.append_nil, List.splitOn_intercalate _ apart (by simpa using some_name)]
    _ = chain.mapM fun i => some i.withoutNul := by
        rw [List.mapM_map]
        exact congrArg (List.mapM · chain) (funext readDotted_tokens)
    _ = some (chain.map withoutNul) := List.mapM_pure

theorem readNames_toSql (i : Identifier) : readNames i.toSql = some [i.withoutNul] := by
  simpa using readNames_chain (List.cons_ne_nil i [])

theorem toSql_withoutNul (i : Identifier) : i.withoutNul.toSql = i.toSql := by
  have quoted (name : List Char) :
      (SqlBuilder.withoutNul name).flatMap quotedChar = name.flatMap quotedChar := by
    have twice :
        SqlBuilder.withoutNul (SqlBuilder.withoutNul name) = SqlBuilder.withoutNul name := by
      simp [SqlBuilder.withoutNul]
    rw [flatMap_quotedChar, flatMap_quotedChar, twice]
  have part (part : IdentifierPart) : part.withoutNul.toSql = part.toSql := by
    cases part with
    | wildcard => rfl
    | name text =>
        simp only [IdentifierPart.withoutNul, IdentifierPart.toSql, quote, quoteChars,
          String.toList_ofList, quoted]
  rw [toSql, withoutNul, List.map_map]
  exact congrArg _ (List.map_congr_left fun p _ => part p)

/-- Identifiers have the same text only if they are the same up to NULs. -/
theorem toSql_eq_iff (i j : Identifier) : i.toSql = j.toSql ↔ i.withoutNul = j.withoutNul := by
  constructor
  · intro same
    have read := i.readNames_toSql
    rw [same, j.readNames_toSql] at read
    exact (List.cons.inj (Option.some.inj read)).1.symm
  · intro same
    rw [← i.toSql_withoutNul, same, j.toSql_withoutNul]

theorem SpellsChain.ne_nil {s : List Char} {chain : List Identifier}
    (spells : SpellsChain s chain) : chain ≠ [] := by
  induction spells with
  | name => exact List.cons_ne_nil _ _
  | cut _ _ _ bases => exact List.append_ne_nil_of_left_ne_nil bases _

end Identifier

/-! ## What stands outside the quoted names -/

/-- The pieces of text that a token is. -/
def NameToken.lexemes : NameToken → List Lexeme
  | part (.name text) => [.name text.toList]
  | part .wildcard => [.bare '*']
  | dot => [.bare '.']
  | label => Identifier.aliasMark.map .bare

/-- A text of names is nothing but its tokens. -/
theorem eq_of_nameTokens {text : List Lexeme} {tokens : List NameToken}
    (read : nameTokens text = some tokens) : text = tokens.flatMap NameToken.lexemes := by
  have followed {token : NameToken} {rest : List Lexeme} {tokens : List NameToken}
      (ih : ∀ {tokens}, nameTokens rest = some tokens → rest = tokens.flatMap NameToken.lexemes)
      (read : (nameTokens rest).map (token :: ·) = some tokens) :
      token.lexemes ++ rest = tokens.flatMap NameToken.lexemes := by
    obtain ⟨later, found, rfl⟩ := Option.map_eq_some_iff.1 read
    rw [List.flatMap_cons, ← ih found]
  induction text using nameTokens.induct generalizing tokens with
  | case1 =>
      obtain rfl := Option.some.inj read
      rfl
  | case2 text rest ih =>
      rw [nameTokens] at read
      simpa [NameToken.lexemes] using followed ih read
  | case3 rest ih | case4 rest ih | case5 rest ih =>
      rw [nameTokens] at read
      exact followed ih read
  | case6 text empty name star dot label =>
      simp [nameTokens] at read

/-- What is written for names can be read in one way only. -/
theorem escape_uniquely_readable :
    (∀ i : Identifier, readNames i.toSql = some [i.withoutNul])
      ∧ (∀ i j : Identifier, i.toSql = j.toSql ↔ i.withoutNul = j.withoutNul)
      ∧ ∀ name : String, ∃ chain,
          (∀ other, Identifier.SpellsChain name.toList other ↔ other = chain)
            ∧ readNames (escape name) = some (chain.map Identifier.withoutNul)
            ∧ ∃ tokens : List NameToken,
                lex (escape name).toList = tokens.flatMap NameToken.lexemes := by
  refine ⟨Identifier.readNames_toSql, Identifier.toSql_eq_iff, fun name => ?_⟩
  have spelled := (Identifier.spellsChain_iff name.toList _).2 rfl
  have read : readNames (escape name) = _ := Identifier.readNames_chain spelled.ne_nil
  refine ⟨_, Identifier.spellsChain_iff name.toList, read, ?_⟩
  obtain ⟨tokens, found, -⟩ := Option.bind_eq_some_iff.1 read
  exact ⟨tokens, eq_of_nameTokens found⟩

example : readNames (escape "a. b as  as x`y as t.* ")
    = some [⟨[.name "a", .name " b"]⟩, ⟨[.name "as x`y"]⟩, ⟨[.name "t", .wildcard]⟩] := by
  decide

end SqlBuilder
