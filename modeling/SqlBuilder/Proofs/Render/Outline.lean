import SqlBuilder.Proofs.Grammar
import SqlBuilder.Proofs.Parts
import SqlBuilder.Proofs.Substitute

set_option autoImplicit false

/-! # Outlines of renderings

How the rendering of a statement is put together, told once for all statements. An *outline* says
what a rendering shows, binds and tries, and a rendering is *outlined* if it is put together from
words, names, placeholders and ingredients in ways that keep this account. `Statement.outlined` goes
through the renderers; what holds of every outlined rendering is then proved for the ways of putting
renderings together, and holds of all statements. -/

namespace SqlBuilder

/-- What a rendering shows with its values written out, what it binds, and which parts it tries, each
in the order of the text. -/
structure Outline where
  shown : String
  values : List Value
  parts : List StatementPart

/-- A text of the language that is not empty. -/
def IsSeparator (text : String) : Prop :=
  text.toList ≠ [] ∧ text.toList.all isWordChar = true

instance : DecidablePred IsSeparator :=
  fun _ => inferInstanceAs (Decidable (_ ∧ _))

theorem isSeparator_comma : IsSeparator ", " := by
  decide

theorem isSeparator_combinator (combinator : Combinator) :
    IsSeparator (" " ++ combinator.keyword ++ " ") := by
  cases combinator <;> decide

theorem isSeparator_joinKind (kind : JoinKind) : IsSeparator (" " ++ kind.keyword ++ " Join ") := by
  cases kind <;> decide

namespace Render

/-- One text after the other. -/
instance : Append (Render String) :=
  ⟨fun first second => do
    let text ← first
    let more ← second
    return text ++ more⟩

theorem append_eq (first second : Render String) :
    first ++ second = (do
      let text ← first
      let more ← second
      return text ++ more) := rfl

theorem between_eq (before after : String) (r : Render String) :
    pure before ++ (r ++ pure after) = (do
      let text ← r
      return before ++ text ++ after) := by
  simp only [append_eq, pure_bind, bind_assoc, String.append_assoc]

/-- A rendering that is put together from ingredients among these, and the same rendering with other
values in the bound positions. -/
inductive Outlined (σ : Value → Value) :
    List Ingredient → Render String → Render String → Outline → Prop
  /-- A text that is written without values and without anything of a caller's own. -/
  | plain {ings : List Ingredient} {text : String}
      (written : Written (fun _ => False) text [] text) :
      Outlined σ ings (pure text) (pure text) ⟨text, [], []⟩
  | operator {ings : List Ingredient} {operator : String} (mem : .operator operator ∈ ings) :
      Outlined σ ings (pure operator) (pure operator) ⟨operator, [], []⟩
  | placeholder {ings : List Ingredient} (v : Value) :
      Outlined σ ings (placeholder v) (placeholder (σ v)) ⟨v.debugLiteral, [v], []⟩
  | fragment {ings : List Ingredient} {fragment : Fragment} (mem : .fragment fragment ∈ ings) :
      Outlined σ ings fragment.render (fragment.substitute σ).render
        ⟨fragment.display, fragment.scalars, [.ingredient (.fragment fragment)]⟩
  /-- A subquery is put together from ingredients of its own. -/
  | subquery {ings : List Ingredient} {select other : Select} {outline : Outline}
      (mem : .query select ∈ ings)
      (inner : Outlined σ select.ingredients select.render other.render outline) :
      Outlined σ ings (subquery select.render) (subquery other.render)
        ⟨"(" ++ outline.shown ++ ")", outline.values, [.ingredient (.query select)]⟩
  /-- A rendering that fails, whatever it would show and bind. -/
  | throw {ings : List Ingredient} {e : QueryError} {part : StatementPart} (shown : String)
      (values : List Value) (fails : part.failure = some e) :
      Outlined σ ings (throw e) (throw e) ⟨shown, values, [part]⟩
  /-- A joined table without comparisons. The error shows the table. -/
  | unmatched {ings : List Ingredient} {table other : Table} {outline : Outline} (shown : String)
      (values : List Value) (inner : Outlined σ ings table.render other.render outline) :
      Outlined σ ings (table.render >>= fun text => throw (.joinWithoutConditions text))
        (other.render >>= fun text => throw (.joinWithoutConditions text))
        ⟨shown, values, outline.parts ++ [.unmatched table]⟩
  /-- A part that is tried and cannot fail. -/
  | skip {ings : List Ingredient} {r r' : Render String} {outline : Outline} (part : StatementPart)
      (fine : part.failure = none) (rest : Outlined σ ings r r' outline) :
      Outlined σ ings r r' ⟨outline.shown, outline.values, part :: outline.parts⟩
  | parens {ings : List Ingredient} {r r' : Render String} {outline : Outline}
      (inner : Outlined σ ings r r' outline) :
      Outlined σ ings (pure "(" ++ (r ++ pure ")")) (pure "(" ++ (r' ++ pure ")"))
        ⟨"(" ++ outline.shown ++ ")", outline.values, outline.parts⟩
  | call {ings : List Ingredient} {name : String} {r r' : Render String} {outline : Outline}
      (mem : .function name ∈ ings) (inner : Outlined σ ings r r' outline) :
      Outlined σ ings (pure (name ++ "(") ++ (r ++ pure ")")) (pure (name ++ "(") ++ (r' ++ pure ")"))
        ⟨name ++ "(" ++ outline.shown ++ ")", outline.values, outline.parts⟩
  | between {ings : List Ingredient} {before after : String} {r r' : Render String}
      {outline : Outline} (first : Written (fun _ => False) before [] before)
      (inner : Outlined σ ings r r' outline) (last : Written (fun _ => False) after [] after) :
      Outlined σ ings (pure before ++ (r ++ pure after)) (pure before ++ (r' ++ pure after))
        ⟨before ++ outline.shown ++ after, outline.values, outline.parts⟩
  | separated {ings : List Ingredient} {a a' b b' : Render String} {first second : Outline}
      (ha : Outlined σ ings a a' first) (separator : String) (word : IsSeparator separator)
      (hb : Outlined σ ings b b' second) :
      Outlined σ ings (a ++ (pure separator ++ b)) (a' ++ (pure separator ++ b'))
        ⟨first.shown ++ separator ++ second.shown, first.values ++ second.values,
          first.parts ++ second.parts⟩

/-- Several renderings, one after the other, the results of which are tagged. -/
inductive OutlinedEach (σ : Value → Value) (ings : List Ingredient) {ι β : Type}
    (tag : ι → String → β) :
    Render (List β) → Render (List β) → List β → List Value → List StatementPart → Prop
  | nil : OutlinedEach σ ings tag (pure []) (pure []) [] [] []
  | cons {r r' : Render String} {outline : Outline} {rs rs' : Render (List β)} {shown : List β}
      {values : List Value} {parts : List StatementPart} (i : ι)
      (first : Outlined σ ings r r' outline) (rest : OutlinedEach σ ings tag rs rs' shown values parts) :
      OutlinedEach σ ings tag
        (do
          let text ← r
          let texts ← rs
          return tag i text :: texts)
        (do
          let text ← r'
          let texts ← rs'
          return tag i text :: texts)
        (tag i outline.shown :: shown) (outline.values ++ values) (outline.parts ++ parts)

/-! ## Rules -/

namespace Outlined

variable {σ : Value → Value} {ings : List Ingredient}

theorem cast {q q' r r' : Render String} {outline other : Outline}
    (h : Outlined σ ings r r' outline) (hq : q = r) (hq' : q' = r') (same : other = outline) :
    Outlined σ ings q q' other := by
  subst hq hq' same
  exact h

/-- A text that binds nothing comes after. -/
theorem ending {r r' : Render String} {outline : Outline} (h : Outlined σ ings r r' outline)
    {text : String} (written : Written (fun _ => False) text [] text) :
    Outlined σ ings (r ++ pure text) (r' ++ pure text)
      ⟨outline.shown ++ text, outline.values, outline.parts⟩ := by
  refine (between (.word "" (by decide)) h written).cast ?_ ?_ ?_
  · simp only [append_eq, pure_bind, bind_assoc, String.empty_append]
  · simp only [append_eq, pure_bind, bind_assoc, String.empty_append]
  · rw [String.empty_append]

/-- A check comes first, and its part stands for everything if it refuses to render. -/
theorem checked {r r' : Render String} {outline : Outline} (h : Outlined σ ings r r' outline)
    (part : StatementPart) {e : QueryError} (fails : part.failure = some e) {refused refused' : Bool}
    (same : refused' = refused) :
    Outlined σ ings
      (do
        if refused then
          MonadExcept.throw e
        r)
      (do
        if refused' then
          MonadExcept.throw e
        r')
      ⟨outline.shown, outline.values, if refused then [part] else outline.parts⟩ := by
  subst same
  cases refused' with
  | true => exact .throw _ _ fails
  | false => exact h

end Outlined

/-! ## Several renderings -/

section Each

variable {σ : Value → Value} {ings : List Ingredient} {ι β : Type} {tag : ι → String → β}
  {rs rs' : Render (List β)} {shown : List β} {values : List Value} {parts : List StatementPart}

theorem OutlinedEach.cast {qs qs' : Render (List β)} {shown' : List β} {values' : List Value}
    {parts' : List StatementPart} (h : OutlinedEach σ ings tag rs rs' shown values parts)
    (hq : qs = rs) (hq' : qs' = rs') (same : shown' = shown) (sameValues : values' = values)
    (sameParts : parts' = parts) : OutlinedEach σ ings tag qs qs' shown' values' parts' := by
  subst hq hq' same sameValues sameParts
  exact h

/-- A text is followed by others, each behind a separator of its own. -/
theorem Outlined.spread {r r' : Render String} {outline : Outline}
    (first : Outlined σ ings r r' outline)
    (rest : OutlinedEach σ ings tag rs rs' shown values parts) {f : β → String}
    {separator : ι → String} (word : ∀ i, IsSeparator (separator i))
    (hf : ∀ i text, f (tag i text) = separator i ++ text) :
    Outlined σ ings
      (do
        let text ← r
        let texts ← rs
        return text ++ String.join (texts.map f))
      (do
        let text ← r'
        let texts ← rs'
        return text ++ String.join (texts.map f))
      ⟨outline.shown ++ String.join (shown.map f), outline.values ++ values,
        outline.parts ++ parts⟩ := by
  induction rest generalizing r r' outline with
  | nil => simpa only [pure_bind, List.map_nil, String.join_nil, String.append_empty, bind_pure,
      List.append_nil] using first
  | cons i second others ih =>
      -- the second text joins the first one, and the others follow
      refine (ih (first.separated _ (word i) second)).cast ?_ ?_ ?_
      · simp only [append_eq, bind_assoc, pure_bind, List.map_cons, String.join_cons, hf,
          String.append_assoc]
      · simp only [append_eq, bind_assoc, pure_bind, List.map_cons, String.join_cons, hf,
          String.append_assoc]
      · simp only [List.map_cons, String.join_cons, hf, String.append_assoc, List.append_assoc]

/-- Texts with commas between them. -/
theorem OutlinedEach.commas {rs rs' : Render (List String)} {shown : List String}
    (h : OutlinedEach σ ings (fun (_ : Unit) text => text) rs rs' shown values parts) :
    Outlined σ ings
      (do
        let texts ← rs
        return commas texts)
      (do
        let texts ← rs'
        return commas texts)
      ⟨commas shown, values, parts⟩ := by
  cases h with
  | nil => exact .plain (.word "" (by decide))
  | cons i first rest =>
      refine (first.spread rest (fun _ => isSeparator_comma) fun _ _ => rfl).cast ?_ ?_ ?_
      all_goals simp only [bind_assoc, pure_bind, commas_cons, commasEnd]

/-- Conditions, each but the first with its combinator in front. -/
theorem OutlinedEach.conditionText {rs rs' : Render (List (Combinator × String))}
    {shown : List (Combinator × String)}
    (h : OutlinedEach σ ings Prod.mk rs rs' shown values parts) :
    Outlined σ ings
      (do
        let texts ← rs
        return conditionText texts)
      (do
        let texts ← rs'
        return conditionText texts)
      ⟨conditionText shown, values, parts⟩ := by
  cases h with
  | nil => exact .plain (.word "" (by decide))
  | cons i first rest =>
      have text := first.spread rest (f := fun part => " " ++ part.1.keyword ++ " " ++ part.2)
        isSeparator_combinator fun _ _ => rfl
      refine text.cast ?_ ?_ ?_
      all_goals simp only [bind_assoc, pure_bind, SqlBuilder.conditionText]

/-- Entries of a select list. -/
theorem OutlinedEach.selectListText {rs rs' : Render (List String)} {shown : List String}
    (h : OutlinedEach σ ings (fun (_ : Unit) text => text) rs rs' shown values parts) :
    Outlined σ ings
      (do
        let texts ← rs
        return selectListText texts)
      (do
        let texts ← rs'
        return selectListText texts)
      ⟨selectListText shown, values, parts⟩ := by
  cases h with
  | nil => exact .plain (.word "*" (by decide))
  | cons i first rest =>
      refine (OutlinedEach.cons i first rest).commas.cast ?_ ?_ rfl
      all_goals simp only [bind_assoc, pure_bind, SqlBuilder.selectListText]

/-- A text and what follows it, if anything does. -/
theorem Outlined.followed {r r' : Render String} {outline : Outline}
    (first : Outlined σ ings r r' outline) (separator : String) (word : IsSeparator separator)
    {join text : List β → String} (nothing : text [] = "")
    (something : ∀ b bs, text (b :: bs) = separator ++ join (b :: bs))
    (rest : OutlinedEach σ ings tag rs rs' shown values parts)
    (joined : Outlined σ ings
      (do
        let texts ← rs
        return join texts)
      (do
        let texts ← rs'
        return join texts)
      ⟨join shown, values, parts⟩) :
    Outlined σ ings
      (do
        let before ← r
        let texts ← rs
        return before ++ text texts)
      (do
        let before ← r'
        let texts ← rs'
        return before ++ text texts)
      ⟨outline.shown ++ text shown, outline.values ++ values, outline.parts ++ parts⟩ := by
  cases rest with
  | nil => simpa only [pure_bind, nothing, String.append_empty, bind_pure, List.append_nil] using first
  | cons i second others =>
      refine (first.separated separator word joined).cast ?_ ?_ ?_
      all_goals simp only [append_eq, bind_assoc, pure_bind, something, String.append_assoc]

/-- Conditions on rows after a text, if there are any. -/
theorem Outlined.filtered {r r' : Render String} {outline : Outline}
    (first : Outlined σ ings r r' outline) {rs rs' : Render (List (Combinator × String))}
    {shown : List (Combinator × String)}
    (rest : OutlinedEach σ ings Prod.mk rs rs' shown values parts) :
    Outlined σ ings
      (do
        let before ← r
        let texts ← rs
        return before ++ whereText texts)
      (do
        let before ← r'
        let texts ← rs'
        return before ++ whereText texts)
      ⟨outline.shown ++ whereText shown, outline.values ++ values, outline.parts ++ parts⟩ :=
  first.followed " Where " (by decide) rfl (fun _ _ => rfl) rest rest.conditionText

/-- What is done to rows that are there already, after a text, if anything is. -/
theorem Outlined.updating {r r' : Render String} {outline : Outline}
    (first : Outlined σ ings r r' outline) {rs rs' : Render (List String)} {shown : List String}
    (rest : OutlinedEach σ ings (fun (_ : Unit) text => text) rs rs' shown values parts) :
    Outlined σ ings
      (do
        let before ← r
        let texts ← rs
        return before ++ duplicatesText texts)
      (do
        let before ← r'
        let texts ← rs'
        return before ++ duplicatesText texts)
      ⟨outline.shown ++ duplicatesText shown, outline.values ++ values, outline.parts ++ parts⟩ :=
  first.followed " On Duplicate Key Update " (by decide) rfl (fun _ _ => rfl) rest rest.commas

end Each

/-- What is labelled. -/
theorem Outlined.labelText {σ : Value → Value} {ings : List Ingredient} {r r' : Render String}
    {outline : Outline} (h : Outlined σ ings r r' outline) (label : Option String) :
    Outlined σ ings
      (do
        let text ← r
        return labelText text label)
      (do
        let text ← r'
        return labelText text label)
      ⟨labelText outline.shown label, outline.values, outline.parts⟩ := by
  cases label with
  | none => simpa only [SqlBuilder.labelText, bind_pure] using h
  | some label =>
      have written := (Written.word (P := fun _ => False) " as " (by decide)).plain_append (.name label)
      refine (h.ending written).cast ?_ ?_ ?_
      all_goals
        simp only [SqlBuilder.labelText, append_eq, pure_bind, String.append_assoc]

end Render

open Render

variable {σ : Value → Value} {ings : List Ingredient}

/-! ## Settings and joins -/

theorem Settings.outlined (settings : Settings) {clauses clauses' : Render String} {outline : Outline}
    (among : settings.ingredients ⊆ ings) (hc : Outlined σ ings clauses clauses' outline) :
    Outlined σ ings (settings.render clauses) ((settings.substitute σ).render clauses')
      ⟨settings.display outline.shown, settings.scalars outline.values,
        settings.parts outline.parts⟩ := by
  obtain ⟨override, handle, debug, rejected⟩ := settings
  unfold Settings.render Settings.substitute Settings.display Settings.scalars Settings.parts
  cases rejected with
  | some operator => exact .throw _ _ rfl
  | none =>
      cases override with
      | some fragment => exact .fragment (among (List.mem_singleton_self _))
      | none => exact hc

theorem JoinKey.outlined (key : JoinKey) (among : key.ingredients ⊆ ings) :
    Outlined σ ings key.render (key.substitute σ).render
      ⟨key.display, key.scalars, key.ingredients.map .ingredient⟩ := by
  cases key with
  | column name => exact .plain (.name name)
  | raw fragment => exact .fragment (among (List.mem_singleton_self _))

theorem renderKeys_outlined (column operator : String) (key : JoinKey)
    (among : .operator operator :: key.ingredients ⊆ ings) :
    Outlined σ ings (renderKeys column operator key) (renderKeys column operator (key.substitute σ))
      ⟨displayKeys column operator key, key.scalars,
        (.operator operator :: key.ingredients).map .ingredient⟩ := by
  obtain ⟨ho, hk⟩ := List.cons_subset.1 among
  have text := (Outlined.plain (.name column)).separated " " (by decide)
    ((Outlined.operator ho).separated " " (by decide) (key.outlined (σ := σ) hk))
  refine (Outlined.skip (.ingredient (.operator operator)) rfl text).cast ?_ ?_ ?_
  all_goals
    simp only [renderKeys, displayKeys, append_eq, bind_assoc, pure_bind, String.append_assoc,
      List.nil_append, List.map_cons]

theorem renderOnParts_outlined :
    ∀ conditions : List OnCondition, conditions.flatMap OnCondition.ingredients ⊆ ings →
      OutlinedEach σ ings Prod.mk (renderOnParts conditions)
        (renderOnParts (conditions.map (OnCondition.substitute σ)))
        (conditions.map OnCondition.display)
        (conditions.flatMap fun condition => condition.key.scalars)
        ((conditions.flatMap OnCondition.ingredients).map .ingredient)
  | [], _ => .nil
  | condition :: rest, among => by
      rw [List.flatMap_cons] at among
      rw [List.flatMap_cons, List.flatMap_cons, List.map_append]
      obtain ⟨hc, hr⟩ := List.append_subset.1 among
      have first := renderKeys_outlined (σ := σ) condition.column condition.operator condition.key hc
      exact .cons condition.combinator first (renderOnParts_outlined rest hr)

/-- A table that is joined under a condition. -/
theorem JoinCondition.outlined {table other : Table} {outline : Outline} (condition : JoinCondition)
    (among : condition.ingredients ⊆ ings) (ht : Outlined σ ings table.render other.render outline) :
    Outlined σ ings
      (do
        let text ← table.render
        let on ← condition.render text
        return text ++ " On " ++ on)
      (do
        let text ← other.render
        let on ← (condition.substitute σ).render text
        return text ++ " On " ++ on)
      ⟨outline.shown ++ " On " ++ condition.display, outline.values ++ condition.scalars,
        outline.parts ++ condition.parts table⟩ := by
  cases condition with
  | keys column operator key =>
      have text := ht.separated " On " (by decide)
        (renderKeys_outlined (σ := σ) column operator key among)
      refine text.cast ?_ ?_ rfl
      all_goals
        simp only [substitute, render, append_eq, bind_assoc, pure_bind, String.append_assoc]
  | several conditions =>
      cases conditions with
      | nil => exact .unmatched _ _ ht
      | cons condition rest =>
          have text := ht.separated " On " (by decide)
            (renderOnParts_outlined (σ := σ) (condition :: rest) among).conditionText
          refine text.cast ?_ ?_ rfl
          all_goals
            simp only [substitute, render, renderOn, List.map_cons, append_eq, bind_assoc, pure_bind,
              String.append_assoc]

/-! ## Selects and what they hold -/

mutual

theorem Operand.outlined_name :
    ∀ (ings : List Ingredient) (operand : Operand), operand.ingredients ⊆ ings →
      Outlined σ ings operand.renderName (operand.substituteName σ).renderName
        ⟨operand.displayName, operand.nameScalars, operand.nameParts⟩
  | ings, .value v, _ => by
      simp only [Operand.substituteName, Operand.nameScalars]
      cases v with
      | text name =>
          simp only [Operand.renderName, Operand.displayName, Operand.nameParts]
          exact .plain (.name name)
      | _ =>
          simp only [Operand.renderName, Operand.nameParts]
          exact .throw _ _ rfl
  | ings, .list items, _ => by
      simp only [Operand.substituteName, Operand.renderName, Operand.nameParts]
      exact .throw _ _ rfl
  | ings, .raw fragment, among => by
      simp only [Operand.ingredients] at among
      simp only [Operand.substituteName, Operand.renderName, Operand.displayName, Operand.nameScalars,
        Operand.nameParts]
      exact .fragment (among (List.mem_singleton_self _))
  | ings, .call call, among => by
      simp only [Operand.ingredients] at among
      simp only [Operand.substituteName, Operand.renderName, Operand.displayName, Operand.nameScalars,
        Operand.nameParts]
      exact Call.outlined_name ings call among
  | ings, .query select, among => by
      simp only [Operand.ingredients] at among
      simp only [Operand.substituteName, Operand.renderName, Operand.displayName, Operand.nameScalars,
        Operand.nameParts]
      exact .subquery (among (List.mem_singleton_self _))
        (Select.outlined _ select (List.Subset.refl _))

theorem Call.outlined_name :
    ∀ (ings : List Ingredient) (call : Call), call.ingredients ⊆ ings →
      Outlined σ ings call.renderName (call.substituteName σ).renderName
        ⟨call.displayName, call.nameScalars, call.nameParts⟩
  | ings, ⟨name, args⟩, among => by
      simp only [Call.ingredients] at among
      obtain ⟨hn, ha⟩ := List.cons_subset.1 among
      refine (Outlined.call hn (outlined_names ings args ha).commas).cast ?_ ?_ ?_
      all_goals
        simp only [Call.substituteName, Call.renderName, Call.displayName, Call.nameScalars,
          Call.nameParts, callText, append_eq, bind_assoc, pure_bind, String.append_assoc]

theorem outlined_names :
    ∀ (ings : List Ingredient) (operands : List Operand), operandIngredients operands ⊆ ings →
      OutlinedEach σ ings (fun (_ : Unit) text => text) (renderNames operands)
        (renderNames (substituteNames σ operands)) (displayNames operands) (nameScalars operands)
        (nameParts operands)
  | ings, [], _ => by
      simp only [substituteNames, renderNames, displayNames, nameScalars, nameParts]
      exact .nil
  | ings, operand :: rest, among => by
      simp only [operandIngredients] at among
      obtain ⟨ho, hr⟩ := List.append_subset.1 among
      simp only [substituteNames, renderNames, displayNames, nameScalars, nameParts]
      exact .cons () (Operand.outlined_name ings operand ho) (outlined_names ings rest hr)

theorem Operand.outlined_value :
    ∀ (ings : List Ingredient) (operand : Operand), operand.ingredients ⊆ ings →
      Outlined σ ings operand.renderValue (operand.substituteValue σ).renderValue
        ⟨operand.displayValue, operand.valueScalars, operand.ingredients.map .ingredient⟩
  | ings, .value v, _ => by
      simp only [Operand.substituteValue, Operand.renderValue, Operand.displayValue,
        Operand.valueScalars, Operand.ingredients]
      exact .placeholder v
  | ings, .list items, among => by
      simp only [Operand.ingredients] at among
      refine (Outlined.parens (outlined_values ings items among).commas).cast ?_ ?_ ?_
      all_goals
        simp only [Operand.substituteValue, Operand.renderValue, Operand.displayValue,
          Operand.valueScalars, Operand.ingredients, append_eq, bind_assoc, pure_bind,
          String.append_assoc]
  | ings, .raw fragment, among => by
      simp only [Operand.ingredients] at among
      simp only [Operand.substituteValue, Operand.renderValue, Operand.displayValue,
        Operand.valueScalars, Operand.ingredients]
      exact .fragment (among (List.mem_singleton_self _))
  | ings, .call call, among => by
      simp only [Operand.ingredients] at among
      simp only [Operand.substituteValue, Operand.renderValue, Operand.displayValue,
        Operand.valueScalars, Operand.ingredients]
      exact Call.outlined_value ings call among
  | ings, .query select, among => by
      simp only [Operand.ingredients] at among
      simp only [Operand.substituteValue, Operand.renderValue, Operand.displayValue,
        Operand.valueScalars, Operand.ingredients]
      exact .subquery (among (List.mem_singleton_self _))
        (Select.outlined _ select (List.Subset.refl _))

theorem Call.outlined_value :
    ∀ (ings : List Ingredient) (call : Call), call.ingredients ⊆ ings →
      Outlined σ ings call.renderValue (call.substituteValue σ).renderValue
        ⟨call.displayValue, call.valueScalars, call.ingredients.map .ingredient⟩
  | ings, ⟨name, args⟩, among => by
      simp only [Call.ingredients] at among
      obtain ⟨hn, ha⟩ := List.cons_subset.1 among
      have text := Outlined.call hn (outlined_values ings args ha).commas
      refine (Outlined.skip (.ingredient (.function name)) rfl text).cast ?_ ?_ ?_
      all_goals
        simp only [Call.substituteValue, Call.renderValue, Call.displayValue, Call.valueScalars,
          Call.ingredients, callText, append_eq, bind_assoc, pure_bind, String.append_assoc,
          List.map_cons]

theorem outlined_values :
    ∀ (ings : List Ingredient) (operands : List Operand), operandIngredients operands ⊆ ings →
      OutlinedEach σ ings (fun (_ : Unit) text => text) (renderValues operands)
        (renderValues (substituteValues σ operands)) (displayValues operands)
        (valueScalars operands) ((operandIngredients operands).map .ingredient)
  | ings, [], _ => by
      simp only [substituteValues, renderValues, displayValues, valueScalars, operandIngredients]
      exact .nil
  | ings, operand :: rest, among => by
      simp only [operandIngredients] at among
      obtain ⟨ho, hr⟩ := List.append_subset.1 among
      simp only [substituteValues, renderValues, displayValues, valueScalars, operandIngredients,
        List.map_append]
      exact .cons () (Operand.outlined_value ings operand ho) (outlined_values ings rest hr)

theorem ColumnExpr.outlined :
    ∀ (ings : List Ingredient) (expr : ColumnExpr), expr.ingredients ⊆ ings →
      Outlined σ ings expr.render (expr.substitute σ).render
        ⟨expr.display, expr.scalars, expr.parts⟩
  | ings, .name name, _ => by
      simp only [ColumnExpr.substitute, ColumnExpr.render, ColumnExpr.display, ColumnExpr.scalars]
      exact .plain (.name name)
  | ings, .raw fragment, among => by
      simp only [ColumnExpr.substitute, ColumnExpr.render, ColumnExpr.display, ColumnExpr.scalars]
      exact .fragment (among (List.mem_singleton_self _))
  | ings, .call call, among => by
      simp only [ColumnExpr.substitute, ColumnExpr.render, ColumnExpr.display, ColumnExpr.scalars]
      exact Call.outlined_name ings call among
  | ings, .query select, among => by
      simp only [ColumnExpr.substitute, ColumnExpr.render, ColumnExpr.display, ColumnExpr.scalars]
      exact .subquery (among (List.mem_singleton_self _))
        (Select.outlined _ select (List.Subset.refl _))

theorem Column.outlined :
    ∀ (ings : List Ingredient) (column : Column), column.ingredients ⊆ ings →
      Outlined σ ings column.render (column.substitute σ).render
        ⟨column.display, column.scalars, column.parts⟩
  | ings, ⟨expr, label⟩, among => by
      simp only [Column.substitute, Column.render, Column.display, Column.scalars]
      exact (ColumnExpr.outlined ings expr among).labelText label

theorem outlined_columns :
    ∀ (ings : List Ingredient) (columns : List Column), columns.flatMap Column.ingredients ⊆ ings →
      OutlinedEach σ ings (fun (_ : Unit) text => text) (renderColumns columns)
        (renderColumns (substituteColumns σ columns)) (displayColumns columns)
        (columnScalars columns) (columns.flatMap Column.parts)
  | ings, [], _ => by
      simp only [substituteColumns, renderColumns, displayColumns, columnScalars]
      exact .nil
  | ings, column :: rest, among => by
      rw [List.flatMap_cons] at among
      obtain ⟨hc, hr⟩ := List.append_subset.1 among
      simp only [substituteColumns, renderColumns, displayColumns, columnScalars, List.flatMap_cons]
      exact .cons () (Column.outlined ings column hc) (outlined_columns ings rest hr)

theorem Table.outlined :
    ∀ (ings : List Ingredient) (table : Table), table.ingredients ⊆ ings →
      Outlined σ ings table.render (table.substitute σ).render
        ⟨table.display, table.scalars, table.ingredients.map .ingredient⟩
  | ings, .named name, _ => by
      simp only [Table.substitute, Table.render, Table.display, Table.scalars]
      exact .plain (.name name)
  | ings, .labelled name label, _ => by
      simp only [Table.substitute, Table.render, Table.display, Table.scalars]
      exact .plain (.labelText (some label) (.name name))
  | ings, .derived select label, among => by
      simp only [Table.substitute, Table.render, Table.display, Table.scalars]
      have inner := Outlined.subquery (among (List.mem_singleton_self _))
        (Select.outlined _ select (List.Subset.refl _))
      exact inner.labelText (some label)

theorem outlined_joins :
    ∀ (ings : List Ingredient) (joins : List Join), joins.flatMap Join.ingredients ⊆ ings →
      OutlinedEach σ ings (fun (kind : JoinKind) text => " " ++ kind.keyword ++ " Join " ++ text)
        (renderJoins joins) (renderJoins (substituteJoins σ joins)) (displayJoins joins)
        (joinScalars joins) (joins.flatMap Join.parts)
  | ings, [], _ => by
      simp only [substituteJoins, renderJoins, displayJoins, joinScalars]
      exact .nil
  | ings, ⟨kind, table, condition⟩ :: rest, among => by
      simp only [List.flatMap_cons, Join.ingredients] at among
      obtain ⟨hj, hr⟩ := List.append_subset.1 among
      obtain ⟨ht, hc⟩ := List.append_subset.1 hj
      have first := condition.outlined hc (Table.outlined ings table ht)
      refine (OutlinedEach.cons kind first (outlined_joins ings rest hr)).cast ?_ ?_ ?_ ?_ ?_
      all_goals
        simp only [substituteJoins, renderJoins, displayJoins, joinScalars, Join.substitute,
          Join.render, Join.display, Join.scalars, Join.parts, List.flatMap_cons, bind_assoc,
          pure_bind, String.append_assoc]

theorem Predicate.outlined :
    ∀ (ings : List Ingredient) (predicate : Predicate), predicate.ingredients ⊆ ings →
      Outlined σ ings predicate.render (predicate.substitute σ).render
        ⟨predicate.display, predicate.scalars, predicate.ingredients.map .ingredient⟩
  | ings, .compare combinator column operator value, among => by
      simp only [Predicate.ingredients] at among
      obtain ⟨ho, hv⟩ := List.cons_subset.1 among
      have comparison := (Outlined.operator ho).separated " " (by decide)
        (Operand.outlined_value ings value hv)
      have shown : Outlined σ ings _ _ _ := .skip (.ingredient (.operator operator)) rfl comparison
      cases column with
      | none =>
          refine shown.cast ?_ ?_ ?_
          all_goals
            simp only [Predicate.substitute, Predicate.render, Predicate.display, Predicate.scalars,
              Predicate.ingredients, append_eq, bind_assoc, pure_bind, String.append_assoc,
              List.nil_append, List.map_cons]
      | some column =>
          refine ((Outlined.plain (.name column)).separated " " (by decide) shown).cast ?_ ?_ ?_
          all_goals
            simp only [Predicate.substitute, Predicate.render, Predicate.display, Predicate.scalars,
              Predicate.ingredients, append_eq, bind_assoc, pure_bind, String.append_assoc,
              List.nil_append, List.map_cons]
  | ings, .raw combinator fragment, among => by
      simp only [Predicate.ingredients] at among
      simp only [Predicate.substitute, Predicate.render, Predicate.display, Predicate.scalars,
        Predicate.ingredients]
      exact .fragment (among (List.mem_singleton_self _))
  | ings, .group combinator predicates, among => by
      simp only [Predicate.ingredients] at among
      refine (Outlined.parens (outlined_predicates ings predicates among).conditionText).cast ?_ ?_ ?_
      all_goals
        simp only [Predicate.substitute, Predicate.render, Predicate.display, Predicate.scalars,
          Predicate.ingredients, append_eq, bind_assoc, pure_bind, String.append_assoc]

theorem outlined_predicates :
    ∀ (ings : List Ingredient) (predicates : List Predicate),
      predicateIngredients predicates ⊆ ings →
        OutlinedEach σ ings Prod.mk (renderPredicates predicates)
          (renderPredicates (substitutePredicates σ predicates)) (displayPredicates predicates)
          (predicateScalars predicates) ((predicateIngredients predicates).map .ingredient)
  | ings, [], _ => by
      simp only [substitutePredicates, renderPredicates, displayPredicates, predicateScalars,
        predicateIngredients]
      exact .nil
  | ings, predicate :: rest, among => by
      simp only [predicateIngredients] at among
      obtain ⟨hp, hr⟩ := List.append_subset.1 among
      simp only [substitutePredicates, renderPredicates, displayPredicates, predicateScalars,
        predicateIngredients, Predicate.combinator_substitute, List.map_append]
      exact .cons _ (Predicate.outlined ings predicate hp) (outlined_predicates ings rest hr)

theorem Select.outlined :
    ∀ (ings : List Ingredient) (select : Select), select.ingredients ⊆ ings →
      Outlined σ ings select.render (select.substitute σ).render
        ⟨select.display, select.scalars, (Statement.select select).parts⟩
  | ings, ⟨settings, table, columns, distinct, joins, predicates, groupBy, tail⟩, among => by
      simp only [Select.ingredients, List.append_subset] at among
      obtain ⟨⟨⟨⟨hs, hc⟩, ht⟩, hj⟩, hp⟩ := among
      -- the clauses are put together in the order of the text
      have list := (outlined_columns ings columns hc).selectListText
      have rows := list.separated " From " (by decide) (Table.outlined ings table ht)
      have joined := rows.spread (outlined_joins ings joins hj) (f := id) isSeparator_joinKind
        fun _ _ => rfl
      have conditions := joined.filtered (outlined_predicates ings predicates hp)
      have keyword : Written (fun _ => False)
          ("Select" ++ (if distinct then " Distinct" else "") ++ " ")
          [] ("Select" ++ (if distinct then " Distinct" else "") ++ " ") := by
        cases distinct <;> exact .word _ (by decide)
      have clauses := conditions.between keyword
        ((Written.groupByText groupBy).plain_append (.tail tail))
      refine (settings.outlined hs clauses).cast ?_ ?_ ?_
      all_goals
        simp only [Select.substitute, Select.render, Select.display, Select.scalars, Statement.parts,
          Statement.settings, Statement.clauseParts, append_eq, bind_assoc, pure_bind,
          String.append_assoc, List.append_assoc, List.map_id]

end

/-! ## The other statements -/

theorem outlined_rows :
    ∀ rows : List (List Operand), rows.flatMap operandIngredients ⊆ ings →
      OutlinedEach σ ings (fun (_ : Unit) text => text) (renderRows rows)
        (renderRows (rows.map (substituteValues σ)))
        (rows.map fun row => "(" ++ commas (displayValues row) ++ ")") (rows.flatMap valueScalars)
        ((rows.flatMap operandIngredients).map .ingredient)
  | [], _ => .nil
  | row :: rest, among => by
      rw [List.flatMap_cons] at among
      obtain ⟨hr, ho⟩ := List.append_subset.1 among
      have first := Outlined.parens (outlined_values (σ := σ) ings row hr).commas
      refine (OutlinedEach.cons () first (outlined_rows rest ho)).cast ?_ ?_ rfl rfl ?_
      all_goals
        simp only [List.map_cons, renderRows, append_eq, bind_assoc, pure_bind, String.append_assoc,
          List.flatMap_cons, List.map_append]

theorem renderAssignment_outlined (column : String) (value : Operand)
    (among : value.ingredients ⊆ ings) :
    Outlined σ ings (renderAssignment column value) (renderAssignment column (value.substituteValue σ))
      ⟨displayAssignment column value, value.valueScalars, value.ingredients.map .ingredient⟩ := by
  have text := (Outlined.plain (.name column)).separated " = " (by decide)
    (Operand.outlined_value (σ := σ) ings value among)
  refine text.cast ?_ ?_ ?_
  all_goals
    simp only [renderAssignment, displayAssignment, append_eq, bind_assoc, pure_bind,
      String.append_assoc, List.nil_append]

theorem outlined_assignments :
    ∀ assignments : List (String × Operand), pairIngredients assignments ⊆ ings →
      OutlinedEach σ ings (fun (_ : Unit) text => text) (renderAssignments assignments)
        (renderAssignments (assignments.map fun pair => (pair.1, pair.2.substituteValue σ)))
        (assignments.map fun assignment => displayAssignment assignment.1 assignment.2)
        (assignments.flatMap fun pair => pair.2.valueScalars)
        ((pairIngredients assignments).map .ingredient)
  | [], _ => .nil
  | assignment :: rest, among => by
      rw [pairIngredients, List.flatMap_cons] at among
      obtain ⟨ha, hr⟩ := List.append_subset.1 among
      rw [pairIngredients, List.flatMap_cons, List.flatMap_cons, List.map_append]
      have first := renderAssignment_outlined (σ := σ) assignment.1 assignment.2 ha
      exact .cons () first (outlined_assignments rest hr)

theorem DuplicateUpdate.outlined (update : DuplicateUpdate) (among : update.ingredients ⊆ ings) :
    Outlined σ ings update.render (update.substitute σ).render
      ⟨update.display, update.scalars, update.ingredients.map .ingredient⟩ := by
  cases update with
  | assign column value => exact renderAssignment_outlined column value among
  | fromValues column =>
      have start := (Written.name (P := fun _ => False) column).append_plain (.word " = " (by decide))
      -- the parenthesis in the literal is the one that opens the list of arguments
      have values := (Written.word (P := fun _ => False) "Values" (by decide)).plain_append
        (Written.name column).parens
      have split : " = Values(" = " = " ++ ("Values" ++ "(") := by decide
      refine (Outlined.plain (start.plain_append values)).cast ?_ ?_ ?_
      all_goals
        simp only [substitute, render, display, scalars, ingredients, split, callText, commas,
          String.intercalate_singleton, String.append_assoc, List.map_nil]

theorem outlined_duplicates :
    ∀ updates : List DuplicateUpdate, updates.flatMap DuplicateUpdate.ingredients ⊆ ings →
      OutlinedEach σ ings (fun (_ : Unit) text => text) (renderDuplicates updates)
        (renderDuplicates (updates.map (DuplicateUpdate.substitute σ)))
        (updates.map DuplicateUpdate.display) (updates.flatMap DuplicateUpdate.scalars)
        ((updates.flatMap DuplicateUpdate.ingredients).map .ingredient)
  | [], _ => .nil
  | update :: rest, among => by
      rw [List.flatMap_cons] at among
      obtain ⟨hu, hr⟩ := List.append_subset.1 among
      rw [List.flatMap_cons, List.flatMap_cons, List.map_append]
      exact .cons () (update.outlined hu) (outlined_duplicates rest hr)

theorem Insert.outlined (s : Insert) (among : s.ingredients ⊆ ings) :
    Outlined σ ings s.render (s.substitute σ).render
      ⟨s.display, s.scalars, (Statement.insert s).parts⟩ := by
  simp only [ingredients, List.append_subset] at among
  obtain ⟨⟨⟨hs, ht⟩, hr⟩, hd⟩ := among
  have keyword : Written (fun _ => False)
      ("Insert" ++ (if s.ignore then " Ignore" else "") ++ " Into ")
      [] ("Insert" ++ (if s.ignore then " Ignore" else "") ++ " Into ") := by
    cases s.ignore <;> exact .word _ (by decide)
  have table :=
    (Table.outlined (σ := σ) ings s.table ht).between keyword (.insertColumnsText s.columns)
  have rows := table.separated " Values " (by decide) (outlined_rows s.rows hr).commas
  have updates := rows.updating (outlined_duplicates s.duplicates hd)
  have clauses := updates.checked .noRows rfl
    (List.isEmpty_map (l := s.rows) (f := substituteValues σ))
  refine (s.settings.outlined hs clauses).cast ?_ ?_ ?_
  all_goals
    simp only [substitute, render, display, scalars, Statement.parts, Statement.settings,
      Statement.clauseParts, append_eq, bind_assoc, pure_bind,
      String.append_assoc, List.append_assoc]
  rfl

theorem Update.outlined (s : Update) (among : s.ingredients ⊆ ings) :
    Outlined σ ings s.render (s.substitute σ).render
      ⟨s.display, s.scalars, (Statement.update s).parts⟩ := by
  simp only [ingredients, List.append_subset] at among
  obtain ⟨⟨⟨hs, ht⟩, ha⟩, hp⟩ := among
  have keyword : Written (fun _ => False) "Update " [] "Update " := .word _ (by decide)
  have table := (Table.outlined (σ := σ) ings s.table ht).between keyword (.word "" (by decide))
  have columns := table.separated " Set " (by decide) (outlined_assignments s.assignments ha).commas
  have conditions := columns.filtered (outlined_predicates ings s.predicates hp)
  have clauses := (conditions.ending (.tail s.tail)).checked .noAssignments rfl
    (List.isEmpty_map (l := s.assignments) (f := fun pair => (pair.1, pair.2.substituteValue σ)))
  refine (s.settings.outlined hs clauses).cast ?_ ?_ ?_
  all_goals
    simp only [substitute, render, display, scalars, Statement.parts, Statement.settings,
      Statement.clauseParts, renderWhere, append_eq, bind_assoc, pure_bind,
      String.append_assoc, String.append_empty, List.append_assoc]

theorem Delete.outlined (s : Delete) (among : s.ingredients ⊆ ings) :
    Outlined σ ings s.render (s.substitute σ).render
      ⟨s.display, s.scalars, (Statement.delete s).parts⟩ := by
  simp only [ingredients, List.append_subset] at among
  obtain ⟨⟨hs, ht⟩, hp⟩ := among
  have keyword : Written (fun _ => False) "Delete From " [] "Delete From " := .word _ (by decide)
  have table := (Table.outlined (σ := σ) ings s.table ht).between keyword (.word "" (by decide))
  have conditions := table.filtered (outlined_predicates ings s.predicates hp)
  refine (s.settings.outlined hs (conditions.ending (.tail s.tail))).cast ?_ ?_ ?_
  all_goals
    simp only [substitute, render, display, scalars, Statement.parts, Statement.settings,
      Statement.clauseParts, renderWhere, append_eq, bind_assoc, pure_bind, String.append_assoc,
      String.append_empty]

/-- A statement renders as it is shown, binds its scalars and tries its parts. With other values in
the bound positions it renders in the same way. -/
theorem Statement.outlined (σ : Value → Value) (s : Statement) :
    Outlined σ s.ingredients s.render (s.substitute σ).render ⟨s.display, s.scalars, s.parts⟩ := by
  cases s with
  | select s => exact Select.outlined _ s (List.Subset.refl _)
  | insert s => exact s.outlined (List.Subset.refl _)
  | update s => exact s.outlined (List.Subset.refl _)
  | delete s => exact s.outlined (List.Subset.refl _)

end SqlBuilder
