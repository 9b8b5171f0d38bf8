import SqlBuilder.Proofs.Assembly
import SqlBuilder.Proofs.Identifiers
import SqlBuilder.Proofs.LabelSites

set_option autoImplicit false

/-! # Labels

Columns and tables are labelled by names, and the text of a label is that of any other name: a dot
in a label qualifies it, and a mark of an alias in it begins another label. A label without them is
a single quoted name, and these labels can be told apart from each other and from all others. -/

namespace SqlBuilder

/-! ## Single names -/

/-- A name that is not qualified and has no alias. -/
def IsSingleName (name : String) : Prop :=
  '.' ∉ name.toList ∧ ¬ Identifier.aliasMark <:+: name.toList

instance : DecidablePred IsSingleName :=
  fun _ => inferInstanceAs (Decidable (_ ∧ _))

namespace Identifier

theorem SpellsName.parts_of_mem {s : List Char} {identifier : Identifier}
    (spells : SpellsName s identifier) (dot : '.' ∈ s) : 2 ≤ identifier.parts.length := by
  cases spells with
  | @wildcard qualifier ends =>
      have pieces := List.length_pos_of_ne_nil (List.splitOn_ne_nil '.' qualifier)
      simp only [List.length_append, List.length_map, List.length_singleton]
      omega
  | plain other =>
      obtain ⟨before, after, rfl⟩ := List.append_of_mem dot
      have first := List.length_pos_of_ne_nil (List.splitOn_ne_nil '.' before)
      have second := List.length_pos_of_ne_nil (List.splitOn_ne_nil '.' after)
      simp only [List.splitOn_append_cons_self, List.length_map, List.length_append]
      omega

/-- A text spells one name of one part only if it has no dot and no mark of an alias. -/
theorem SpellsChain.single {s : List Char} {part : IdentifierPart}
    (spells : SpellsChain s [⟨[part]⟩]) : '.' ∉ s ∧ ¬ aliasMark <:+: s := by
  generalize chain : ([⟨[part]⟩] : List Identifier) = names at spells
  cases spells with
  | name whole spells =>
      refine ⟨fun dot => ?_, whole⟩
      have parts := spells.parts_of_mem dot
      rw [← (List.cons.inj chain).1] at parts
      simp at parts
  | cut cut first second =>
      -- both halves spell a name of their own
      have length := congrArg List.length chain
      have bases := List.length_pos_of_ne_nil first.ne_nil
      have labels := List.length_pos_of_ne_nil second.ne_nil
      simp only [List.length_singleton, List.length_append] at length
      omega

theorem mem_of_mem_trimEnd {c : Char} {s : List Char} (mem : c ∈ Text.trimEnd s) : c ∈ s := by
  rw [Text.trimEnd, List.mem_reverse] at mem
  exact List.mem_reverse.1 ((List.dropWhile_sublist _).mem mem)

theorem chain_of_isSingleName {name : String} (single : IsSingleName name) :
    chain name.toList = [⟨[.name name]⟩] := by
  obtain ⟨plain, whole⟩ := single
  have other : ¬ ['.', '*'] <:+ Text.trimEnd name.toList := by
    rintro ⟨qualifier, ends⟩
    refine plain (mem_of_mem_trimEnd ?_)
    rw [← ends]
    simp
  have spelled := SpellsName.plain other
  rw [List.splitOn_eq_singleton plain, List.map_singleton, Function.comp_apply,
    String.ofList_toList] at spelled
  exact ((spellsChain_iff _ _).1 (.name whole spelled)).symm

end Identifier

theorem readNames_escape (name : String) :
    readNames (escape name)
      = some ((Identifier.chain name.toList).map Identifier.withoutNul) :=
  Identifier.readNames_chain ((Identifier.spellsChain_iff name.toList _).2 rfl).ne_nil

theorem escape_of_isSingleName {name : String} (single : IsSingleName name) :
    escape name = quote name := by
  rw [escape, Identifier.chain_of_isSingleName single]
  simp [Identifier.toSql, IdentifierPart.toSql]

/-- What is written for a name is read as a single part only if it is a single name, and then the
part is the name, up to NULs. -/
theorem readNames_escape_single_iff (name : String) (part : IdentifierPart) :
    readNames (escape name) = some [⟨[part]⟩]
      ↔ IsSingleName name ∧ part = .name (String.ofList (withoutNul name.toList)) := by
  have single_read (single : IsSingleName name) :
      readNames (escape name) = some [⟨[.name (String.ofList (withoutNul name.toList))]⟩] := by
    rw [readNames_escape, Identifier.chain_of_isSingleName single]
    rfl
  constructor
  · intro read
    have single : IsSingleName name := by
      rw [readNames_escape] at read
      obtain ⟨i, chain, parts⟩ := List.map_eq_singleton_iff.1 (Option.some.inj read)
      obtain ⟨own, own_parts, -⟩ := List.map_eq_singleton_iff.1 (congrArg Identifier.parts parts)
      have spelled := (Identifier.spellsChain_iff name.toList _).2 chain.symm
      have identifier : i = ⟨[own]⟩ := congrArg Identifier.mk own_parts
      rw [identifier] at spelled
      exact spelled.single
    rw [single_read single] at read
    simp only [Option.some.injEq, List.cons.injEq, Identifier.mk.injEq, and_true] at read
    exact ⟨single, read.symm⟩
  · rintro ⟨single, rfl⟩
    exact single_read single

theorem escape_eq_quote_iff (name : String) : escape name = quote name ↔ IsSingleName name := by
  constructor
  · intro same
    have quoted : quote name = (Identifier.mk [.name name]).toSql := by
      simp [Identifier.toSql, IdentifierPart.toSql]
    have read := Identifier.readNames_toSql ⟨[.name name]⟩
    rw [← quoted, ← same] at read
    exact ((readNames_escape_single_iff name _).1 read).1
  · exact escape_of_isSingleName

/-- No other name has the text of a single name. -/
theorem eq_of_escape_eq {name other : String} (single : IsSingleName name)
    (free : '\x00' ∉ name.toList) (other_free : '\x00' ∉ other.toList)
    (same : escape name = escape other) : name = other := by
  have kept {text : String} (free : '\x00' ∉ text.toList) :
      String.ofList (withoutNul text.toList) = text := by
    have all : ∀ c ∈ text.toList, (c != '\x00') = true := by
      rintro c mem
      simpa using ne_of_mem_of_not_mem mem free
    rw [withoutNul, List.filter_eq_self.2 all, String.ofList_toList]
  have read := (readNames_escape_single_iff name _).2 ⟨single, rfl⟩
  rw [same, readNames_escape_single_iff, kept free, kept other_free] at read
  exact IdentifierPart.name.inj read.2

/-! ## Labels in statements -/

/-- The table of a statement. -/
def Statement.table : Statement → Table
  | select s => s.table
  | insert s => s.table
  | update s => s.table
  | delete s => s.table

/-- The table on which a program builds a statement. -/
def Program.table : Program → Table
  | select table _ => table
  | insert table _ => table
  | update table _ => table
  | delete table _ => table

theorem Program.table_statement (program : Program) : program.statement.table = program.table := by
  cases program with
  | select table steps => exact Select.table_ofSteps table steps
  | insert table steps => exact Insert.table_ofSteps table steps
  | update table steps => exact Update.table_ofSteps table steps
  | delete table steps => exact Delete.table_ofSteps table steps

namespace Statement

/-- A statement with a label in a site builds a query exactly if what stands around the label can be
built, and then the label stands in it behind the mark of an alias. -/
theorem LabelSite.build_put_iff (site : LabelSite) (label : String) (query : Query) :
    (site.put label).build = .ok query ↔ site.frame.fill (.ok (.ofLabel label)) = .ok query := by
  have same := site.toOption_put label
  generalize (site.put label).build = built at same ⊢
  generalize site.frame.fill (.ok (.ofLabel label)) = framed at same ⊢
  rcases built with _ | built
  · rcases framed with _ | framed
    · simp
    · cases same
  · rcases framed with _ | framed
    · cases same
    · rw [Option.some.inj same]

/-- Statements with the same text have labels with the same text in a site, if the site is rendered
at all. -/
theorem LabelSite.escape_eq_of_build_eq {site : LabelSite}
    (shown : ∀ result, site.frame ≠ .fixed result) {label other : String} {query : Query}
    (first : (site.put label).build = .ok query) (second : (site.put other).build = .ok query) :
    escape label = escape other := by
  rw [build_put_iff] at first second
  cases frame : site.frame with
  | fixed result => exact absurd frame (shown result)
  | around before after =>
      rw [frame] at first second
      obtain ⟨start, _, rest, rfl, ⟨⟩, rfl, rfl⟩ := Frame.fill_eq_ok first
      obtain ⟨_, _, _, ⟨⟩, ⟨⟩, ⟨⟩, built⟩ := Frame.fill_eq_ok second
      -- the same text stands before the labels, and the same text behind them
      have same := congrArg Query.sql built
      simpa [Query.ofLabel, Query.append_eq, Query.bare] using same

/-- A label of a column or of a table, at any depth of the subqueries of a statement of any kind, is
written behind the mark of an alias as any other name, and nothing else in the text depends on it;
every label of a statement stands in such a site, and steps label columns and tables with the labels
that they are given. The text of a label is one quoted name exactly if the label is a single name,
and only then it is read back as one part, which is the label without its NULs. So a single name has
a text that no other label has, and in no site it gives the same statement as another label, unless
the site is not rendered at all. -/
theorem label_written (label : String) :
    (∀ (site : LabelSite) (query : Query),
      (site.put label).build = .ok query ↔ site.frame.fill (.ok (.ofLabel label)) = .ok query)
      ∧ (∀ s : Statement, label ∈ s.labels → ∃ site : LabelSite, site.put label = s)
      ∧ (∀ program : Program, program.statement.table = program.table)
      ∧ (∀ (table : Table) (steps : List SelectStep),
        (Select.ofSteps table steps).columns = steps.flatMap SelectStep.addedColumns
          ∧ (Select.ofSteps table steps).joins = steps.flatMap SelectStep.addedJoins)
      ∧ (escape label = quote label ↔ IsSingleName label)
      ∧ (∀ part, readNames (escape label) = some [⟨[part]⟩]
        ↔ IsSingleName label ∧ part = .name (String.ofList (withoutNul label.toList)))
      ∧ (IsSingleName label → '\x00' ∉ label.toList →
        ∀ other : String, '\x00' ∉ other.toList → label ≠ other →
          escape label ≠ escape other
            ∧ ∀ site : LabelSite, (∀ result, site.frame ≠ .fixed result) →
              ∀ query, (site.put label).build = .ok query →
                (site.put other).build ≠ .ok query) := by
  refine ⟨fun site => site.build_put_iff label, exists_site, Program.table_statement,
    fun table steps => ?_, escape_eq_quote_iff label, readNames_escape_single_iff label, ?_⟩
  · exact ⟨Select.columns_ofSteps table steps, Select.joins_ofSteps table steps⟩
  · intro single free other other_free different
    have texts : escape label ≠ escape other := fun same =>
      different (eq_of_escape_eq single free other_free same)
    refine ⟨texts, ?_⟩
    intro site shown query first second
    exact texts (LabelSite.escape_eq_of_build_eq shown first second)

/-- A single name with blanks, a delimiter and a star, and a qualified name of the same letters, as
labels of a table in a subquery. -/
theorem label_written_quoted :
    let site := LabelSite.select (.filter (.ofTable (.named "t")) []
      (.compare .and (some "c") "In" (.query (.table (.ofTable (.named "x")) (.named "u")))) [])
    IsSingleName "a`b *"
      ∧ escape "a`b *" = "`a``b *`"
      ∧ (site.put "a`b *").build
        = .ok ⟨"Select * From `t` Where `c` In (Select * From `u` as `a``b *`)", []⟩
      ∧ (site.put "a`b.*").build
        ≠ .ok ⟨"Select * From `t` Where `c` In (Select * From `u` as `a``b *`)", []⟩ := by
  intro site
  have single : IsSingleName "a`b *" := by decide
  obtain ⟨-, -, -, -, quoted, -, apart⟩ := label_written "a`b *"
  have other := apart single (by decide) "a`b.*" (by decide) (by decide)
  have shown : ∀ result, site.frame ≠ .fixed result := by
    intro result same
    cases same
  exact ⟨single, quoted.2 single, rfl, other.2 site shown _ rfl⟩

/-- A label with a dot is written as a qualified name, and a label with the mark of an alias as two
labels, with the blanks around them gone. -/
theorem label_with_mark :
    let labelled (label : String) := Statement.select
      (.ofSteps (.named "t") [.columnAs (.name "col") label])
    (labelled "a.b").build = .ok ⟨"Select `col` as `a`.`b` From `t`", []⟩
      ∧ (labelled "a as b").build = .ok ⟨"Select `col` as `a` as `b` From `t`", []⟩
      ∧ (labelled "a as  b").build = .ok ⟨"Select `col` as `a` as `b` From `t`", []⟩
      ∧ ¬∀ label, (labelled label).build
        = .ok ⟨"Select `col` as " ++ quote label ++ " From `t`", []⟩ := by
  intro labelled
  refine ⟨rfl, rfl, rfl, fun law => ?_⟩
  have dotted := law "a.b"
  rw [show (labelled "a.b").build = .ok ⟨"Select `col` as `a`.`b` From `t`", []⟩ from rfl] at dotted
  exact absurd (congrArg Query.sql (Except.ok.inj dotted)) (by decide)

end Statement

end SqlBuilder
