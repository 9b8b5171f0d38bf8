import SqlBuilder.Proofs.Apart
import SqlBuilder.Proofs.Lexing
import SqlBuilder.Proofs.Precedence
import SqlBuilder.Proofs.Protocol

set_option autoImplicit false

/-! # Building a query again

A query can be handed to another statement as its override. A fragment reads every pair of question
marks as a name, also inside quotes, while no placeholder of a query follows another one at once. So
the query that is built again is the same if and only if none of its quoted names has a pair of
question marks in it. -/

namespace SqlBuilder

/-- Two question marks in a row. -/
def questionMarks : List Char := ['?', '?']

/-! ## Fragments that are their own expansion -/

namespace Fragment

/-- A pair of question marks is where a name is read. -/
theorem exists_name_iff (slot : Nat) (cs : List Char) :
    (∃ k, .name k ∈ tokensFrom slot cs) ↔ questionMarks <:+: cs := by
  induction slot, cs using tokensFrom.induct with
  | case1 => simp [tokensFrom, questionMarks]
  | case2 slot rest ih =>
      have here : .name slot ∈ tokensFrom slot ('?' :: '?' :: rest) := by
        rw [tokensFrom]
        exact List.mem_cons_self
      exact iff_of_true ⟨slot, here⟩ ⟨[], rest, rfl⟩
  | case3 slot rest single ih =>
      have pair : ¬ questionMarks <+: '?' :: rest := by
        rintro ⟨more, text⟩
        exact single more (List.cons.inj text).2.symm
      rw [tokensFrom_value single, List.infix_cons_iff, or_iff_right pair, ← ih]
      simp
  | case4 slot c rest pair other ih =>
      have none : ¬ questionMarks <+: c :: rest := by
        rintro ⟨more, text⟩
        exact other (List.cons.inj text).1.symm
      rw [tokensFrom_char other, List.infix_cons_iff, or_iff_right none, ← ih]
      simp

/-- A fragment expands to itself if and only if it has no names. -/
theorem expand_eq_self_iff (fragment : Fragment) :
    fragment.expand = .ok (fragment.sql, fragment.params)
      ↔ ¬ questionMarks <:+: fragment.sql.toList := by
  rw [expand_eq_ok_iff, ← exists_name_iff 0]
  constructor
  · -- the parameter of a name would be missing among those that are kept
    rintro ⟨names, -, kept⟩ ⟨k, member⟩
    obtain ⟨text, found⟩ := names k member
    have fewer : (keptFrom 0 fragment.tokens fragment.params).length < fragment.params.length := by
      rw [keptFrom, List.drop_zero, List.length_map]
      refine Nat.lt_of_lt_of_eq (List.length_filter_lt_length_iff_exists.2 ?_) List.length_zipIdx
      exact ⟨(.text text, k), List.mem_zipIdx_iff_getElem?.2 found,
        fun other => of_decide_eq_true other member⟩
    exact Nat.ne_of_lt fewer (congrArg List.length kept).symm
  · intro none
    refine ⟨?_, ?_, ?_⟩
    · intro k member
      exact (none ⟨k, member⟩).elim
    · -- tokens other than names are written as they are
      have same : ∀ token ∈ fragment.tokens,
          token.written fragment.params = token.source := by
        intro token member
        cases token with
        | name k => exact (none ⟨k, member⟩).elim
        | value k => rfl
        | char c => rfl
      rw [List.flatMap_congr same]
      exact (source_tokensFrom 0 _).symm
    · have all : ∀ param ∈ fragment.params.zipIdx, .name param.2 ∉ fragment.tokens := by
        intro param _ member
        exact none ⟨param.2, member⟩
      rw [keptFrom, List.drop_zero, List.filter_eq_self.2 (by simpa using all),
        List.zipIdx_map_fst]

end Fragment

/-! ## Pairs of question marks in a text -/

/-- A pair of question marks does not reach over another character. -/
theorem questionMarks_infix_append {c : Char} (other : c ≠ '?') {a b : List Char}
    (pair : questionMarks <:+: a ++ c :: b) : questionMarks <:+: a ∨ questionMarks <:+: b := by
  have start : ∀ {rest : List Char}, '?' :: rest <+: c :: b → False := by
    rintro rest ⟨more, text⟩
    exact other (List.cons.inj text).1.symm
  rcases List.infix_append_iff.1 pair with inside | later | ⟨left, right, split, ends, begins⟩
  · exact .inl inside
  · rcases List.infix_cons_iff.1 later with begins | inside
    · exact (start begins).elim
    · exact .inr inside
  · cases right with
    | nil =>
        rw [List.append_nil] at split
        exact .inl (split ▸ ends.isInfix)
    | cons d right =>
        have last : d = '?' := by
          have member : d ∈ questionMarks := by simp [split]
          simpa [questionMarks] using member
        exact (start (last ▸ begins)).elim

/-- Of all pieces of a text only a placeholder begins with a question mark. -/
theorem head_of_sources {lexemes : List Lexeme} {rest : List Char}
    (starts : lexemes.flatMap Lexeme.source = '?' :: rest) :
    ∃ later, lexemes = .bare '?' :: later := by
  cases lexemes with
  | nil => cases starts
  | cons lexeme later =>
      cases lexeme with
      | bare c =>
          obtain ⟨rfl, -⟩ := List.cons.inj starts
          exact ⟨later, rfl⟩
      | name text => exact absurd (List.cons.inj starts).1 (by decide)
      | unclosed text => exact absurd (List.cons.inj starts).1 (by decide)

/-- If placeholders stand apart and all names are closed, a pair of question marks stands in a
name. -/
theorem exists_name_of_questionMarks {lexemes : List Lexeme}
    (closed : ∀ text, .unclosed text ∉ lexemes)
    (apart : (lexemes.flatMap Lexeme.marks).IsChain marksApart)
    (pair : questionMarks <:+: lexemes.flatMap Lexeme.source) :
    ∃ text, .name text ∈ lexemes ∧ questionMarks <:+: doubled text := by
  induction lexemes with
  | nil => simp [questionMarks] at pair
  | cons lexeme rest ih =>
      rw [List.flatMap_cons] at apart pair
      have later (pair : questionMarks <:+: rest.flatMap Lexeme.source) :
          ∃ text, .name text ∈ lexeme :: rest ∧ questionMarks <:+: doubled text := by
        obtain ⟨text, member, inside⟩ :=
          ih (fun text member => closed text (.tail _ member)) apart.right_of_append pair
        exact ⟨text, .tail _ member, inside⟩
      cases lexeme with
      | unclosed text => exact (closed text List.mem_cons_self).elim
      | bare c =>
          rcases List.infix_cons_iff.1 pair with ⟨more, text⟩ | inside
          · -- both question marks would be placeholders
            obtain ⟨rfl, second⟩ := List.cons.inj text
            obtain ⟨others, rfl⟩ := head_of_sources second.symm
            exact absurd (List.isChain_cons_cons.1 apart).1 (by decide)
          · exact later inside
      | name text =>
          -- the delimiters of the name keep its question marks from those around it
          have inside : questionMarks <:+:
              [] ++ delimiter :: (doubled text ++ delimiter :: rest.flatMap Lexeme.source) := by
            simpa [Lexeme.source] using pair
          have other : delimiter ≠ '?' := by decide
          rcases questionMarks_infix_append other inside with nowhere | inside
          · simp [questionMarks] at nowhere
          · rcases questionMarks_infix_append other inside with inside | after
            · exact ⟨text, List.mem_cons_self, inside⟩
            · exact later after

/-- In a text whose placeholders stand apart, pairs of question marks are a matter of its names. -/
theorem Apart.questionMarks_iff {sql : String} (h : Apart sql) :
    questionMarks <:+: sql.toList
      ↔ ∃ text, .name text ∈ lex sql.toList ∧ questionMarks <:+: doubled text := by
  constructor
  · intro pair
    refine exists_name_of_questionMarks ((madeOf_lex sql.toList).unclosed_not_mem h.closed) ?_ ?_
    · rw [← markPlaceholders_eq_marks]
      exact h.apart
    · rwa [source_lex]
  · rintro ⟨text, member, inside⟩
    obtain ⟨before, after, split⟩ := List.append_of_mem member
    have source : (Lexeme.name text).source <:+: sql.toList := by
      rw [← source_lex sql.toList, split, List.flatMap_append, List.flatMap_cons]
      exact ⟨_, _, List.append_assoc _ _ _⟩
    have between : doubled text <:+: (Lexeme.name text).source := ⟨[delimiter], [delimiter], rfl⟩
    exact inside.trans (between.trans source)

/-! ## Queries as overrides -/

/-- A statement of a kind that has nothing but an override. -/
def Program.overriding (fragment : Fragment) (table : Table) : StatementKind → Program
  | .select => .select table [.setting (.override fragment)]
  | .insert => .insert table [.setting (.override fragment)]
  | .update => .update table [.setting (.override fragment)]
  | .delete => .delete table [.setting (.override fragment)]

theorem Program.build_overriding (fragment : Fragment) (table : Table) (kind : StatementKind) :
    (overriding fragment table kind).statement.build = fragment.query := by
  cases kind <;> exact Statement.build_of_override rfl rfl

theorem Fragment.query_eq_ok_iff (fragment : Fragment) (query : Query) :
    fragment.query = .ok query ↔ fragment.expand = .ok (query.sql, query.params) := by
  constructor
  · intro same
    obtain ⟨done, expands, rfl⟩ := map_eq_ok same
    exact expands
  · intro expands
    rw [Fragment.query, expands]
    rfl

/-- A query that steps build, without fragments and functions of the caller's own, is built again by
every statement that has it as its override, if and only if no quoted name in it has a pair of
question marks. Its placeholders never follow one another at once. -/
theorem Program.rebuild_iff {program : Program} (own : program.Supplies fun _ => False)
    {query : Query} (built : program.statement.build = .ok query) :
    (∀ table kind, (overriding ⟨query.sql, query.params⟩ table kind).statement.build = .ok query
        ↔ ∀ text, .name text ∈ lex query.sql.toList → ¬ ['?', '?'] <:+: doubled text)
      ∧ ¬ [('?', true), ('?', true)] <:+: markPlaceholders false query.sql.toList := by
  have apart := apart_of_build own built
  constructor
  · intro table kind
    rw [build_overriding, Fragment.query_eq_ok_iff, Fragment.expand_eq_self_iff,
      apart.questionMarks_iff]
    simp [questionMarks]
  · intro pair
    have neighbours := List.IsChain.infix apart.apart pair
    exact absurd (List.isChain_cons_cons.1 neighbours).1 (by decide)

/-- A list, a range and a subquery, with question marks in names and values. One more question mark
in the name of the table makes the difference. -/
theorem Program.rebuild_iff_questioned :
    let program (table : String) := Program.delete (.named table)
      [.filter (.isIn .and "a?`?" [.value (.text "??"), .value (.int 3)]),
        .filter (.between .or "c" (.int 1) (.int 2)),
        .filter (.inQuery .and "d" (.ofSteps (.named "u")
          [.filter (.equal .and "k" (.value .null))]))]
    let sql (table : String) := "Delete From " ++ table ++ " Where `a?``?` In (?, ?)"
      ++ " Or `c` Between ? And ? And `d` In (Select * From `u` Where `k` = ?)"
    (∃ query, (program "t?").statement.build = .ok query ∧ query.sql = sql "`t?`"
        ∧ ∀ table kind,
          (overriding ⟨query.sql, query.params⟩ table kind).statement.build = .ok query)
      ∧ ∃ query, (program "t??").statement.build = .ok query ∧ query.sql = sql "`t??`"
        ∧ ∀ table kind,
          (overriding ⟨query.sql, query.params⟩ table kind).statement.build ≠ .ok query := by
  intro program sql
  have own (table : String) : (program table).Supplies fun _ => False := by
    intro i hi
    simp only [program, Program.supplied, Table.ingredients, DeleteStep.supplied,
      WhereStep.supplied, Operand.ingredients, operandIngredients, List.flatMap_cons,
      List.flatMap_nil, List.nil_append, List.append_nil, List.mem_singleton] at hi
    subst hi
    exact .query _ _ (by simp [Program.supplied, Table.ingredients, SelectStep.supplied,
      WhereStep.supplied, Operand.ingredients])
  have single : (program "t?").statement.build.toOption.map Query.sql = some (sql "`t?`") := by
    decide +kernel
  have double : (program "t??").statement.build.toOption.map Query.sql = some (sql "`t??`") := by
    decide +kernel
  obtain ⟨query, built, text⟩ := Statement.query_of_sql single
  obtain ⟨query', built', text'⟩ := Statement.query_of_sql double
  refine ⟨⟨query, built, text, fun table kind => ?_⟩, query', built', text', fun table kind => ?_⟩
  · refine ((rebuild_iff (own "t?") built).1 table kind).2 fun name member inside => ?_
    have none : ¬ questionMarks <:+: query.sql.toList := by
      rw [text]
      decide +kernel
    exact none ((apart_of_build (own "t?") built).questionMarks_iff.2 ⟨name, member, inside⟩)
  · intro same
    have member : .name "t??".toList ∈ lex query'.sql.toList := by
      rw [text']
      decide +kernel
    exact ((rebuild_iff (own "t??") built').1 table kind).1 same _ member (by decide)

end SqlBuilder
