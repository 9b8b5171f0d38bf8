import Mathlib.Data.List.Chain
import SqlBuilder.Proofs.Placeholders

set_option autoImplicit false

/-! # Texts whose placeholders stand apart

In a text that is *apart*, no placeholder follows another one at once. A text that is *guarded* also
does not begin with a placeholder, so it can stand after every text that is apart. The clauses of a
statement are put together from such texts and from separators. -/

namespace SqlBuilder

/-- Neighbours that are not both placeholders. -/
def marksApart (a b : Char × Bool) : Prop :=
  (a.2 && b.2) = false

instance : DecidableRel marksApart := fun a b => inferInstanceAs (Decidable ((a.2 && b.2) = false))

/-- A text that closes its names and in which no placeholder follows another one at once. -/
structure Apart (sql : String) : Prop where
  closed : quotedAfter false sql.toList = false
  apart : (markPlaceholders false sql.toList).IsChain marksApart

/-- It also does not begin with a placeholder. -/
structure Guarded (sql : String) : Prop extends Apart sql where
  start : ∀ mark ∈ (markPlaceholders false sql.toList).head?, mark.2 = false

/-! ## Texts one after the other -/

namespace Apart

/-- After a text that closes its names, the next one is read as on its own. -/
theorem marks_append {a : String} (first : Apart a) (b : String) :
    markPlaceholders false (a ++ b).toList
      = markPlaceholders false a.toList ++ markPlaceholders false b.toList := by
  rw [String.toList_append, markPlaceholders_append, first.closed]

/-- Only where the texts meet could one placeholder follow another. -/
theorem append_of_boundary {a b : String} (first : Apart a) (second : Apart b)
    (boundary : ∀ x ∈ (markPlaceholders false a.toList).getLast?,
      ∀ y ∈ (markPlaceholders false b.toList).head?, marksApart x y) : Apart (a ++ b) := by
  constructor
  · rw [String.toList_append, quotedAfter_append, first.closed, second.closed]
  · rw [first.marks_append]
    exact first.apart.append second.apart boundary

theorem append {a b : String} (first : Apart a) (second : Guarded b) : Apart (a ++ b) := by
  apply first.append_of_boundary second.toApart
  intro x _ y head
  rw [marksApart, second.start y head, Bool.and_false]

end Apart

/-! ## Texts without placeholders -/

theorem Aligned.unmarked_of_mem {cs shown : List Char} (aligned : Aligned false cs [] shown false)
    {mark : Char × Bool} (member : mark ∈ markPlaceholders false cs) : mark.2 = false := by
  have none : ∀ mark ∈ markPlaceholders false cs, mark.2 = false := by
    simpa using aligned.count
  exact none mark member

theorem Aligned.guarded {sql : String} {shown : List Char}
    (aligned : Aligned false sql.toList [] shown false) : Guarded sql := by
  refine ⟨⟨aligned.state, ?_⟩, ?_⟩
  · apply List.Pairwise.isChain
    apply List.pairwise_of_forall_mem_list
    intro a ha b _
    rw [marksApart, aligned.unmarked_of_mem ha, Bool.false_and]
  · intro mark head
    exact aligned.unmarked_of_mem (List.mem_of_mem_head? head)

/-- Every text that is apart can stand after one without placeholders. -/
theorem Apart.after {a b : String} {shown : List Char} (next : Apart b)
    (aligned : Aligned false a.toList [] shown false) : Apart (a ++ b) := by
  apply aligned.guarded.toApart.append_of_boundary next
  intro x last y _
  rw [marksApart, aligned.unmarked_of_mem (List.mem_of_mem_getLast? last), Bool.false_and]

theorem Apart.placeholder : Apart "?" :=
  ⟨by decide, by decide⟩

/-- What is written without values and without anything of a caller's own. -/
theorem Written.unmarked {sql shown : String} (written : Written (fun _ => False) sql [] shown) :
    Aligned false sql.toList [] shown.toList false :=
  written.aligned fun _ no => no.elim

namespace Guarded

theorem unmarked {sql : String} (h : sql.toList.all isUnmarked = true) : Guarded sql :=
  (Aligned.unmarked h).guarded

/-- A separator can stand before a placeholder. -/
theorem before {separator : String} (filled : separator.toList ≠ [])
    (unmarked : separator.toList.all isUnmarked = true) {sql : String} (next : Apart sql) :
    Guarded (separator ++ sql) := by
  have aligned := Aligned.unmarked unmarked
  refine ⟨next.after aligned, ?_⟩
  -- the separator is not empty, so the text begins as it does
  obtain ⟨c, rest, chars⟩ := List.exists_cons_of_ne_nil filled
  rw [aligned.guarded.marks_append, List.head?_append]
  intro mark head
  rcases Option.or_eq_some_iff.1 head with here | ⟨empty, -⟩
  · exact aligned.guarded.start mark here
  · rw [chars, markPlaceholders] at empty
    cases empty

theorem parens {sql : String} (inner : Apart sql) : Guarded ("(" ++ sql ++ ")") := by
  rw [String.append_assoc]
  exact before (by decide) (by decide) (inner.append (unmarked (by decide)))

end Guarded

/-! ## Ingredients -/

/-- An ingredient that keeps placeholders apart itself. -/
def Ingredient.IsApart : Ingredient → Prop
  | .fragment f => ∀ sql params, f.expand = .ok (sql, params) → Apart sql
  | .function name => Guarded name
  | .operator o => Guarded o
  | .query _ => True

/-- What steps add of their own accord keeps placeholders apart. -/
theorem Ingredient.BuiltIn.isApart {i : Ingredient} (h : i.BuiltIn) : i.IsApart := by
  cases h with
  | null =>
      intro sql params expands
      cases expand_nullFragment.symm.trans expands
      exact (Guarded.unmarked (by decide)).toApart
  | range low high =>
      intro sql params expands
      cases (expand_rangeFragment low high).symm.trans expands
      exact ⟨by decide, by decide⟩
  | star =>
      intro sql params expands
      cases expand_star.symm.trans expands
      exact (Guarded.unmarked (by decide)).toApart
  | count => exact Guarded.unmarked (by decide)
  | operator allowed =>
      exact Guarded.unmarked
        (all_of_class isUnmarked_of_isOperatorChar (isOperatorChar_of_allowed allowed))

/-! ## Renderings -/

/-- If the rendering succeeds, its text is apart. -/
def Render.StandsApart (r : Render String) : Prop :=
  r.Ensures fun sql _ => Apart sql

open Render

/-- Values are bound in lists, comparisons, assignments and calls, and what is written around them
there keeps one placeholder from following another at once. -/
theorem Render.Outlined.standsApart {σ : Value → Value} {ings : List Ingredient}
    {r r' : Render String} {outline : Outline} (ho : Outlined σ ings r r' outline)
    (h : ∀ i ∈ ings, i.Throughout Ingredient.IsApart) : r.StandsApart := by
  induction ho with
  | plain written => exact Ensures.pure written.unmarked.guarded.toApart
  | operator mem =>
      cases h _ mem with
      | operator ho => exact Ensures.pure (Guarded.toApart ho)
  | placeholder v =>
      refine (Ensures.placeholder v).mono ?_
      rintro _ _ ⟨rfl, -⟩
      exact .placeholder
  | fragment mem =>
      cases h _ mem with
      | fragment hf => exact (Ensures.fragment _).mono hf
  | subquery mem inner ih =>
      cases h _ mem with
      | query hs => exact Ensures.subquery ((ih hs).mono fun _ _ text => (Guarded.parens text).toApart)
  | throw shown values fails => exact Ensures.throw _
  | unmatched shown values inner ih => exact (ih h).bind fun _ _ _ => .throw _
  | skip part fine rest ih => exact ih h
  | parens inner ih =>
      rw [between_eq]
      exact (ih h).bind_pure fun _ _ text => (Guarded.parens text).toApart
  | call mem inner ih =>
      cases h _ mem with
      | function hn =>
          rw [between_eq]
          refine (ih h).bind_pure fun _ _ args => ?_
          have text := Apart.append (Guarded.toApart hn) (Guarded.parens args)
          simpa only [String.append_assoc] using text
  | between first inner last ih =>
      rw [between_eq]
      refine (ih h).bind_pure fun _ _ text => ?_
      exact (text.after first.unmarked).append last.unmarked.guarded
  | separated ha separator word hb iha ihb =>
      refine Ensures.bind (iha h) fun _ _ first => ?_
      have next : Ensures _ fun sql _ => Guarded sql := Ensures.bind_pure (ihb h) fun _ _ second =>
        .before word.1 (all_of_class isUnmarked_of_isWordChar word.2) second
      exact next.bind_pure fun _ _ second => first.append second

/-- Steps keep placeholders apart if fragments and functions are their own. -/
theorem Program.apart_of_build {program : Program} (own : program.Supplies fun _ => False)
    {query : Query} (built : program.statement.build = .ok query) : Apart query.sql := by
  have parts : program.statement.Throughout Ingredient.IsApart := by
    refine fun i hi => (program.throughout own i hi).mono fun j granted => ?_
    cases granted with
    | builtIn h => exact h.isApart
    | fragment no => exact no.elim
    | function no => exact no.elim
  obtain ⟨after, run, -⟩ := Statement.outcome_of_build built
  obtain ⟨params, -, text⟩ := (program.statement.outlined id).standsApart parts _ _ _ run
  exact text

end SqlBuilder
