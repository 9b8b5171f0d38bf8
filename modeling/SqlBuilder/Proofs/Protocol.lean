import SqlBuilder.Fragment

set_option autoImplicit false

/-! # The protocol of raw fragments

What a fragment expands to, told by the numbers of its slots: slot number `k` takes parameter number
`k`. Expanding uses the parameters up instead of counting, and `Fragment.expand_protocol` shows that
both ways bind the same values under the same slots and report the same errors. What carries the
induction is that the parameters which are left to the rest of a text are those from the number of
its first slot on. -/

namespace SqlBuilder

/-- A token of the text of a fragment. The slots of a text are numbered from its start. -/
inductive FragmentToken where
  /-- A `??`. -/
  | name (slot : Nat)
  /-- A single `?`. -/
  | value (slot : Nat)
  | char (c : Char)
deriving DecidableEq, Repr

namespace FragmentToken

/-- The text of a token. -/
def source : FragmentToken → List Char
  | name _ => ['?', '?']
  | value _ => ['?']
  | char c => [c]

/-- Whether a token takes a name. -/
def isName : FragmentToken → Bool
  | name _ => true
  | _ => false

/-- What is written for a token: the names are put in their places, all else stays. -/
def written (params : List Value) : FragmentToken → List Char
  | name slot =>
    match params[slot]? with
    | some (.text text) => (escape text).toList
    | _ => []
  | token => token.source

end FragmentToken

namespace Fragment

/-- The tokens of a text whose first slot has the given number. Of several question marks in a row
the first two belong together. -/
def tokensFrom (slot : Nat) : List Char → List FragmentToken
  | [] => []
  | '?' :: '?' :: rest => .name slot :: tokensFrom (slot + 1) rest
  | '?' :: rest => .value slot :: tokensFrom (slot + 1) rest
  | c :: rest => .char c :: tokensFrom slot rest

/-- The tokens of a fragment. -/
def tokens (fragment : Fragment) : List FragmentToken :=
  tokensFrom 0 fragment.sql.toList

/-- The parameter with this number is there, and it is a text. -/
def IsName (params : List Value) (slot : Nat) : Prop :=
  ∃ name, params[slot]? = some (.text name)

/-- The parameters that no name takes, each in its place, from a number on. -/
def keptFrom (slot : Nat) (tokens : List FragmentToken) (params : List Value) : List Value :=
  (((params.drop slot).zipIdx slot).filter fun param => .name param.2 ∉ tokens).map (·.1)

/-- The error for a name that cannot be written, given its number among the names. -/
def nameFault (position : Nat) : Option Value → QueryError
  | none => .missingName position
  | some param => .notAName (param.describe ++ " in an identifier placeholder")

/-! ## One token -/

theorem tokensFrom_value {rest : List Char} (single : ∀ more, rest ≠ '?' :: more) (slot : Nat) :
    tokensFrom slot ('?' :: rest) = .value slot :: tokensFrom (slot + 1) rest := by
  rw [tokensFrom]
  exact single

theorem tokensFrom_char {c : Char} (other : c ≠ '?') (slot : Nat) (rest : List Char) :
    tokensFrom slot (c :: rest) = .char c :: tokensFrom slot rest := by
  rw [tokensFrom]
  · intro _ same
    exact (other same).elim
  · exact other

/-- The tokens lose nothing of the text. -/
theorem source_tokensFrom (slot : Nat) (cs : List Char) :
    (tokensFrom slot cs).flatMap FragmentToken.source = cs := by
  induction slot, cs using tokensFrom.induct with
  | case1 => rfl
  | case2 slot rest ih =>
      rw [tokensFrom, List.flatMap_cons, ih]
      rfl
  | case3 slot rest single ih =>
      rw [tokensFrom_value single, List.flatMap_cons, ih]
      rfl
  | case4 slot c rest pair other ih =>
      rw [tokensFrom_char other, List.flatMap_cons, ih]
      rfl

theorem drop_of_some {params : List Value} {slot : Nat} {param : Value}
    (found : params[slot]? = some param) :
    params.drop slot = param :: params.drop (slot + 1) := by
  obtain ⟨inside, rfl⟩ := List.getElem?_eq_some_iff.1 found
  exact List.drop_eq_getElem_cons inside

theorem drop_of_none {params : List Value} {slot : Nat} (missing : params[slot]? = none) :
    params.drop slot = [] ∧ params.drop (slot + 1) = [] :=
  have short := List.getElem?_eq_none_iff.1 missing
  ⟨List.drop_eq_nil_of_le short, List.drop_eq_nil_of_le (Nat.le_succ_of_le short)⟩

theorem expandFrom_name {params : List Value} {slot : Nat} {name : String}
    (found : params[slot]? = some (.text name)) (named : Nat) (rest : List Char) :
    expandFrom named ('?' :: '?' :: rest) (params.drop slot)
      = (expandFrom (named + 1) rest (params.drop (slot + 1))).map fun done =>
          ((FragmentToken.name slot).written params ++ done.1, done.2) := by
  rw [drop_of_some found, expandFrom, FragmentToken.written, found]

theorem expandFrom_fault {params : List Value} {slot : Nat} (offends : ¬IsName params slot)
    (named : Nat) (rest : List Char) :
    expandFrom named ('?' :: '?' :: rest) (params.drop slot)
      = .error (nameFault (named + 1) params[slot]?) := by
  cases found : params[slot]? with
  | none =>
      rw [(drop_of_none found).1, expandFrom]
      rfl
  | some param =>
      have other : ∀ name, param ≠ .text name := by
        rintro name rfl
        exact offends ⟨name, found⟩
      rw [drop_of_some found, expandFrom]
      · rfl
      · exact other

/-- A placeholder keeps its parameter, if it has one. -/
theorem expandFrom_value {rest : List Char} (single : ∀ more, rest ≠ '?' :: more)
    (params : List Value) (slot named : Nat) :
    expandFrom named ('?' :: rest) (params.drop slot)
      = (expandFrom named rest (params.drop (slot + 1))).map fun done =>
          ('?' :: done.1, params[slot]?.toList ++ done.2) := by
  cases found : params[slot]? with
  | none =>
      rw [(drop_of_none found).1, (drop_of_none found).2, expandFrom]
      · rfl
      · exact single
  | some param =>
      rw [drop_of_some found, expandFrom]
      · rfl
      · exact single

theorem expandFrom_char {c : Char} (other : c ≠ '?') (named : Nat) (rest : List Char)
    (params : List Value) :
    expandFrom named (c :: rest) params
      = (expandFrom named rest params).map fun done => (c :: done.1, done.2) := by
  rw [expandFrom]
  · intro _ same
    exact (other same).elim
  · exact other

/-- The slots of a text have the numbers from that of its first slot on. -/
theorem le_of_name_mem {slot k : Nat} {cs : List Char}
    (member : .name k ∈ tokensFrom slot cs) : slot ≤ k := by
  induction slot, cs using tokensFrom.induct with
  | case1 => simp [tokensFrom] at member
  | case2 slot rest ih =>
      rw [tokensFrom, List.mem_cons] at member
      rcases member with here | later
      · exact Nat.le_of_eq (FragmentToken.name.inj here).symm
      · exact Nat.le_of_succ_le (ih later)
  | case3 slot rest single ih =>
      rw [tokensFrom_value single] at member
      exact Nat.le_of_succ_le (ih (by simpa using member))
  | case4 slot c rest pair other ih =>
      rw [tokensFrom_char other] at member
      exact ih (by simpa using member)

theorem keptFrom_nil (slot : Nat) (params : List Value) :
    keptFrom slot [] params = params.drop slot := by
  rw [keptFrom, List.filter_eq_self.2 (by simp), List.zipIdx_map_fst]

theorem keptFrom_char (slot : Nat) (c : Char) (tokens : List FragmentToken) (params : List Value) :
    keptFrom slot (.char c :: tokens) params = keptFrom slot tokens params := by
  simp [keptFrom]

/-- A parameter is kept if no name takes it. -/
theorem keptFrom_eq (slot : Nat) (tokens : List FragmentToken) (params : List Value) :
    keptFrom slot tokens params
      = (if .name slot ∈ tokens then [] else params[slot]?.toList)
        ++ keptFrom (slot + 1) tokens params := by
  cases found : params[slot]? with
  | none =>
      obtain ⟨here, behind⟩ := drop_of_none found
      simp [keptFrom, here, behind]
  | some param =>
      conv => lhs; rw [keptFrom, drop_of_some found]
      by_cases taken : .name slot ∈ tokens <;> simp [keptFrom, taken]

/-- The parameters behind a slot do not depend on it. -/
theorem keptFrom_succ {slot : Nat} {token : FragmentToken}
    (numbered : ∀ k, .name k = token → k = slot) (tokens : List FragmentToken)
    (params : List Value) :
    keptFrom (slot + 1) (token :: tokens) params = keptFrom (slot + 1) tokens params := by
  unfold keptFrom
  refine congrArg (List.map _) (List.filter_congr fun param member => ?_)
  have behind : slot + 1 ≤ param.2 := (List.mem_zipIdx member).1
  have other : FragmentToken.name param.2 ≠ token := by
    intro same
    rw [numbered _ same] at behind
    exact Nat.not_succ_le_self slot behind
  simp [other]

theorem keptFrom_name (slot : Nat) (tokens : List FragmentToken) (params : List Value) :
    keptFrom slot (.name slot :: tokens) params = keptFrom (slot + 1) tokens params := by
  rw [keptFrom_eq, if_pos List.mem_cons_self, List.nil_append,
    keptFrom_succ fun _ same => FragmentToken.name.inj same]

theorem keptFrom_value {slot : Nat} {tokens : List FragmentToken} (later : .name slot ∉ tokens)
    (params : List Value) :
    keptFrom slot (.value slot :: tokens) params
      = params[slot]?.toList ++ keptFrom (slot + 1) tokens params := by
  rw [keptFrom_eq, if_neg (by simpa using later), keptFrom_succ (by simp)]

/-! ## All tokens -/

/-- If every name has its text, the names are put in their places and all other parameters are
kept. -/
theorem expandFrom_of_names {params : List Value} {slot : Nat} {cs : List Char}
    (names : ∀ k, .name k ∈ tokensFrom slot cs → IsName params k) (named : Nat) :
    expandFrom named cs (params.drop slot)
      = .ok ((tokensFrom slot cs).flatMap (FragmentToken.written params),
          keptFrom slot (tokensFrom slot cs) params) := by
  induction slot, cs using tokensFrom.induct generalizing named with
  | case1 slot => rw [expandFrom, tokensFrom, keptFrom_nil, List.flatMap_nil]
  | case2 slot rest ih =>
      rw [tokensFrom] at names ⊢
      obtain ⟨name, found⟩ := names slot List.mem_cons_self
      rw [expandFrom_name found, ih fun k member => names k (List.mem_cons_of_mem _ member),
        keptFrom_name]
      rfl
  | case3 slot rest single ih =>
      rw [tokensFrom_value single] at names ⊢
      have later : FragmentToken.name slot ∉ tokensFrom (slot + 1) rest := by
        intro member
        exact Nat.not_succ_le_self slot (le_of_name_mem member)
      rw [expandFrom_value single, ih fun k member => names k (List.mem_cons_of_mem _ member),
        keptFrom_value later]
      rfl
  | case4 slot c rest pair other ih =>
      rw [tokensFrom_char other] at names ⊢
      rw [expandFrom_char other, ih fun k member => names k (List.mem_cons_of_mem _ member),
        keptFrom_char]
      rfl

/-- The first name without a text decides the error. -/
theorem expandFrom_of_fault {params : List Value} {slot k : Nat} {cs : List Char}
    {before after : List FragmentToken} (cut : tokensFrom slot cs = before ++ .name k :: after)
    (names : ∀ j, .name j ∈ before → IsName params j) (offends : ¬IsName params k) (named : Nat) :
    expandFrom named cs (params.drop slot)
      = .error (nameFault (named + before.countP FragmentToken.isName + 1) params[k]?) := by
  induction slot, cs using tokensFrom.induct generalizing before named with
  | case1 slot => simp [tokensFrom] at cut
  | case2 slot rest ih =>
      rw [tokensFrom] at cut
      cases before with
      | nil =>
          obtain ⟨rfl⟩ := (List.cons.inj cut).1
          exact expandFrom_fault offends named rest
      | cons token before =>
          obtain ⟨rfl, later⟩ := List.cons.inj cut
          obtain ⟨name, found⟩ := names slot List.mem_cons_self
          rw [expandFrom_name found,
            ih later fun j member => names j (List.mem_cons_of_mem _ member),
            List.countP_cons_of_pos rfl, Nat.add_right_comm named 1, ← Nat.add_assoc named]
          rfl
  | case3 slot rest single ih =>
      rw [tokensFrom_value single] at cut
      cases before with
      | nil => cases (List.cons.inj cut).1
      | cons token before =>
          obtain ⟨rfl, later⟩ := List.cons.inj cut
          rw [expandFrom_value single,
            ih later fun j member => names j (List.mem_cons_of_mem _ member),
            List.countP_cons_of_neg (by simp [FragmentToken.isName])]
          rfl
  | case4 slot c rest pair other ih =>
      rw [tokensFrom_char other] at cut
      cases before with
      | nil => cases (List.cons.inj cut).1
      | cons token before =>
          obtain ⟨rfl, later⟩ := List.cons.inj cut
          rw [expandFrom_char other,
            ih later fun j member => names j (List.mem_cons_of_mem _ member),
            List.countP_cons_of_neg (by simp [FragmentToken.isName])]
          rfl

/-- If some name has no text, there is a first one. -/
theorem exists_first_fault {params : List Value} {tokens : List FragmentToken}
    (fault : ¬∀ k, .name k ∈ tokens → IsName params k) :
    ∃ before k after, tokens = before ++ .name k :: after
      ∧ (∀ j, .name j ∈ before → IsName params j) ∧ ¬IsName params k := by
  induction tokens with
  | nil => exact absurd (by simp) fault
  | cons token rest ih =>
      by_cases here : ∃ k, token = .name k ∧ ¬IsName params k
      · obtain ⟨k, rfl, offends⟩ := here
        exact ⟨[], k, rest, rfl, by simp, offends⟩
      · have fine : ∀ k, .name k = token → IsName params k := fun k same =>
          Classical.byContradiction fun offends => here ⟨k, same.symm, offends⟩
        obtain ⟨before, k, after, rfl, names, offends⟩ := ih fun names => fault fun k member =>
          (List.mem_cons.1 member).elim (fine k) (names k)
        exact ⟨token :: before, k, after, rfl,
          fun j member => (List.mem_cons.1 member).elim (fine j) (names j), offends⟩

theorem expand_of_names {fragment : Fragment}
    (names : ∀ k, .name k ∈ fragment.tokens → IsName fragment.params k) :
    fragment.expand = .ok
      (String.ofList (fragment.tokens.flatMap (FragmentToken.written fragment.params)),
        keptFrom 0 fragment.tokens fragment.params) := by
  have run := expandFrom_of_names names 0
  rw [List.drop_zero] at run
  rw [expand, run]
  rfl

theorem expand_of_fault {fragment : Fragment} {before after : List FragmentToken} {k : Nat}
    (cut : fragment.tokens = before ++ .name k :: after)
    (names : ∀ j, .name j ∈ before → IsName fragment.params j)
    (offends : ¬IsName fragment.params k) :
    fragment.expand
      = .error (nameFault (before.countP FragmentToken.isName + 1) fragment.params[k]?) := by
  have run := expandFrom_of_fault cut names offends 0
  rw [List.drop_zero, Nat.zero_add] at run
  rw [expand, run]
  rfl

theorem expand_eq_ok_iff (fragment : Fragment) (sql : String) (kept : List Value) :
    fragment.expand = .ok (sql, kept) ↔
      (∀ k, .name k ∈ fragment.tokens → IsName fragment.params k)
        ∧ sql.toList = fragment.tokens.flatMap (FragmentToken.written fragment.params)
        ∧ kept = keptFrom 0 fragment.tokens fragment.params := by
  constructor
  · intro expands
    by_cases names : ∀ k, .name k ∈ fragment.tokens → IsName fragment.params k
    · rw [expand_of_names names] at expands
      cases expands
      exact ⟨names, String.toList_ofList, rfl⟩
    · obtain ⟨before, k, after, cut, names, offends⟩ := exists_first_fault names
      rw [expand_of_fault cut names offends] at expands
      cases expands
  · rintro ⟨names, text, rfl⟩
    rw [expand_of_names names, ← text, String.ofList_toList]

/-- Five question marks in a row are two names and a placeholder. -/
example : tokens { sql := "?????" } = [.name 0, .name 1, .value 2] := by decide

end Fragment

end SqlBuilder
