import SqlBuilder.Identifier

set_option autoImplicit false

/-! # The chain of names that a text spells

What a text spells as a dotted name and as a chain of names with aliases, told without a program.
Every text spells exactly one chain, and it is the one that is computed: the bound on the cuts, the
length of the text, is never reached. -/

namespace SqlBuilder

namespace Text

/-- A text is cut at the first occurrence of a mark. -/
structure FirstCut (mark s before after : List Char) : Prop where
  text : s = before ++ mark ++ after
  first : ∀ other rest, s = other ++ mark ++ rest → before.length ≤ other.length

theorem FirstCut.unique {mark s before after before' after' : List Char}
    (cut : FirstCut mark s before after) (cut' : FirstCut mark s before' after') :
    before = before' ∧ after = after' := by
  have long : before.length = before'.length :=
    Nat.le_antisymm (cut.first _ _ cut'.text) (cut'.first _ _ cut.text)
  have same : before ++ (mark ++ after) = before' ++ (mark ++ after') := by
    rw [← List.append_assoc, ← List.append_assoc, ← cut.text, ← cut'.text]
  obtain ⟨rfl, rest⟩ := List.append_inj same long
  exact ⟨rfl, List.append_cancel_left rest⟩

theorem FirstCut.occurs {mark s before after : List Char} (cut : FirstCut mark s before after) :
    mark <:+: s :=
  ⟨before, after, cut.text.symm⟩

/-- The cut is at the first occurrence, and there is none only if the mark does not occur. -/
theorem cut?_spec (mark : List Char) (some_char : mark ≠ []) (s : List Char) :
    match cut? mark s with
    | some (before, after) => FirstCut mark s before after
    | none => ¬ mark <:+: s := by
  induction s with
  | nil => simpa [cut?] using some_char
  | cons c rest ih =>
      rw [cut?]
      by_cases starts : mark.isPrefixOf (c :: rest)
      · rw [if_pos starts]
        exact ⟨(List.prefix_iff_eq_append.1 (List.isPrefixOf_iff_prefix.1 starts)).symm,
          fun _ _ _ => Nat.zero_le _⟩
      · rw [if_neg starts]
        have later : ∀ other after, c :: rest = other ++ mark ++ after →
            ∃ tail, other = c :: tail ∧ rest = tail ++ mark ++ after := by
          intro other after text
          cases other with
          | nil => exact absurd (List.isPrefixOf_iff_prefix.2 ⟨after, text.symm⟩) starts
          | cons d tail =>
              obtain ⟨same, after_first⟩ := List.cons.inj text
              exact ⟨tail, congrArg (· :: tail) same.symm, after_first⟩
        cases found : cut? mark rest with
        | none =>
            rw [found] at ih
            rintro ⟨other, after, text⟩
            obtain ⟨tail, -, shorter⟩ := later other after text.symm
            exact ih ⟨tail, after, shorter.symm⟩
        | some halves =>
            rw [found] at ih
            refine ⟨congrArg (c :: ·) ih.text, ?_⟩
            intro other after text
            obtain ⟨tail, rfl, shorter⟩ := later other after text
            exact Nat.succ_le_succ (ih.first tail after shorter)

theorem pieces_eq_splitOn (d : Char) (s : List Char) : pieces d s = s.splitOn d := by
  induction s with
  | nil => rfl
  | cons c rest ih =>
      rw [pieces, List.splitOn_cons_eq_if_modifyHead, ih]
      by_cases same : c = d
      · rw [if_pos same, if_pos (by simpa using same)]
      · rw [if_neg same, if_neg (by simpa using same)]
        cases split : rest.splitOn d with
        | nil => exact absurd split (List.splitOn_ne_nil d rest)
        | cons piece pieces => rfl

theorem dropEnding?_append (ending s : List Char) : dropEnding? ending (s ++ ending) = some s := by
  rw [dropEnding?, if_pos (List.isSuffixOf_iff_suffix.2 (List.suffix_append s ending))]
  simp

theorem dropEnding?_eq_none {ending s : List Char} (other : ¬ ending <:+ s) :
    dropEnding? ending s = none := by
  rw [dropEnding?, if_neg (fun ends => other (List.isSuffixOf_iff_suffix.1 ends))]

theorem length_trim_le (s : List Char) : (trim s).length ≤ s.length := by
  have start : (trimStart s).length ≤ s.length := (List.dropWhile_sublist _).length_le
  have ends : (trimEnd (trimStart s)).length ≤ (trimStart s).length := by
    rw [trimEnd, List.length_reverse]
    simpa using (List.dropWhile_sublist (l := (trimStart s).reverse) isBlank).length_le
  exact Nat.le_trans ends start

end Text

namespace Identifier

/-- The names that a text without aliases spells: it is split at every dot, and all of it belongs to
names, unless it ends in `.*` when the blanks after that are left out. -/
inductive SpellsName (s : List Char) : Identifier → Prop
  | wildcard {qualifier : List Char} (ends : Text.trimEnd s = qualifier ++ ['.', '*']) :
    SpellsName s ⟨(qualifier.splitOn '.').map (.name ∘ String.ofList) ++ [.wildcard]⟩
  | plain (other : ¬ ['.', '*'] <:+ Text.trimEnd s) :
    SpellsName s ⟨(s.splitOn '.').map (.name ∘ String.ofList)⟩

/-- The chain of names that a text spells: it is cut at the first mark of an alias, and both halves,
trimmed, spell their own chains. -/
inductive SpellsChain : List Char → List Identifier → Prop
  | name {s : List Char} {identifier : Identifier} (whole : ¬ aliasMark <:+: s)
    (spells : SpellsName s identifier) : SpellsChain s [identifier]
  | cut {s base label : List Char} {bases labels : List Identifier}
    (cut : Text.FirstCut aliasMark s base label) (first : SpellsChain (Text.trim base) bases)
    (second : SpellsChain (Text.trim label) labels) : SpellsChain s (bases ++ labels)

theorem SpellsName.unique {s : List Char} {i j : Identifier} (first : SpellsName s i)
    (second : SpellsName s j) : i = j := by
  cases first with
  | wildcard ends =>
      cases second with
      | wildcard ends' =>
          rw [ends] at ends'
          rw [List.append_cancel_right ends']
      | plain other => exact absurd ⟨_, ends.symm⟩ other
  | plain other =>
      cases second with
      | wildcard ends => exact absurd ⟨_, ends.symm⟩ other
      | plain => rfl

theorem SpellsChain.unique {s : List Char} {chain other : List Identifier}
    (first : SpellsChain s chain) (second : SpellsChain s other) : chain = other := by
  induction first generalizing other with
  | name whole spells =>
      cases second with
      | name _ spells' => rw [spells.unique spells']
      | cut cut => exact absurd cut.occurs whole
  | cut cut _ _ bases labels =>
      cases second with
      | name whole => exact absurd cut.occurs whole
      | cut cut' first second =>
          obtain ⟨rfl, rfl⟩ := cut.unique cut'
          rw [bases first, labels second]

theorem spellsName_ofChars (s : List Char) : SpellsName s (ofChars s) := by
  have names_eq (s : List Char) : names s = (s.splitOn '.').map (.name ∘ String.ofList) := by
    rw [names, Text.pieces_eq_splitOn]
    rfl
  by_cases ends : ['.', '*'] <:+ Text.trimEnd s
  · obtain ⟨qualifier, text⟩ := ends
    rw [ofChars, ← text, Text.dropEnding?_append]
    simp only [names_eq]
    exact .wildcard text.symm
  · rw [ofChars, Text.dropEnding?_eq_none ends]
    simp only [names_eq]
    exact .plain ends

/-- A text that is cut is longer than its halves, so as many cuts as it has characters suffice. -/
theorem spellsChain_chainWithin {cuts : Nat} {s : List Char} (short : s.length ≤ cuts) :
    SpellsChain s (chainWithin cuts s) := by
  induction cuts generalizing s with
  | zero =>
      rw [List.length_eq_zero_iff.1 (Nat.le_zero.1 short)]
      exact .name (by decide) (spellsName_ofChars [])
  | succ cuts ih =>
      have spec := Text.cut?_spec aliasMark (by decide) s
      rw [chainWithin]
      cases found : Text.cut? aliasMark s with
      | none =>
          rw [found] at spec
          exact .name spec (spellsName_ofChars s)
      | some halves =>
          rw [found] at spec
          have long : s.length = halves.1.length + aliasMark.length + halves.2.length := by
            rw [spec.text, List.length_append, List.length_append]
          have mark : aliasMark.length = 4 := rfl
          have base := Text.length_trim_le halves.1
          have label := Text.length_trim_le halves.2
          exact .cut spec (ih (by omega)) (ih (by omega))

/-- The chain of a text is what it spells, and it spells nothing else. -/
theorem spellsChain_iff (s : List Char) (other : List Identifier) :
    SpellsChain s other ↔ other = chain s := by
  have spelled : SpellsChain s (chain s) := spellsChain_chainWithin (Nat.le_refl _)
  constructor
  · intro spells
    exact spells.unique spelled
  · rintro rfl
    exact spelled

end Identifier

end SqlBuilder
