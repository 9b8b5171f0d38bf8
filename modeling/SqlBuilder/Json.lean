import SqlBuilder.Decimal.Binary64

set_option autoImplicit false

/-! # JSON documents

A JSON document as a tree. Integers that fit into 64 bits, signed or unsigned, are kept exactly and
all other numbers are doubles. The members of an object are kept in ascending order of their keys,
each key once: `sortMembers` puts them in this order, and a document carries the proof that all of its
objects have them so. -/

namespace SqlBuilder

/-- An integer that fits into 64 bits, signed or unsigned. -/
structure WordInteger where
  value : Int
  lower : -0x8000000000000000 ≤ value
  upper : value < 0x10000000000000000
deriving DecidableEq, Repr

namespace WordInteger

/-- The integer as such, if it fits. -/
def ofInt? (n : Int) : Option WordInteger :=
  if h : -0x8000000000000000 ≤ n ∧ n < 0x10000000000000000 then some ⟨n, h.1, h.2⟩ else none

/-- A signed word. -/
def ofInt64 (n : Int64) : WordInteger :=
  ⟨n.toInt, Int64.le_toInt n, by have := Int64.toInt_lt n; omega⟩

/-- An unsigned word. -/
def ofUInt64 (n : UInt64) : WordInteger :=
  ⟨n.toNat, by omega, by have := n.toNat_lt; omega⟩

end WordInteger

/-! ## Trees -/

namespace Json

/-- A JSON document whose objects may have their members in any order. -/
inductive Tree where
  | null
  | bool (b : Bool)
  | integer (n : WordInteger)
  | real (x : Binary64)
  | string (s : String)
  | array (items : List Tree)
  | object (members : List (String × Tree))

mutual

/-- Equality of trees. Numbers are equal as numbers of one kind: an integer differs from every
double, and the two zeros of the doubles are equal. -/
def Tree.same : Tree → Tree → Bool
  | .null, .null => true
  | .bool a, .bool b => a == b
  | .integer a, .integer b => a == b
  | .real a, .real b => a.same b
  | .string a, .string b => a == b
  | .array a, .array b => sameItems a b
  | .object a, .object b => sameMembers a b
  | _, _ => false

/-- Equality of the items of two arrays. -/
def sameItems : List Tree → List Tree → Bool
  | [], [] => true
  | a :: as, b :: bs => a.same b && sameItems as bs
  | _, _ => false

/-- Equality of the members of two objects. -/
def sameMembers : List (String × Tree) → List (String × Tree) → Bool
  | [], [] => true
  | (k, a) :: as, (l, b) :: bs => k == l && a.same b && sameMembers as bs
  | _, _ => false

end

mutual

/-- A property of a tree and of all trees inside it. -/
def Tree.Throughout (P : Tree → Prop) : Tree → Prop
  | .array items => P (.array items) ∧ ThroughoutItems P items
  | .object members => P (.object members) ∧ ThroughoutMembers P members
  | tree => P tree

/-- A property of the items of an array and of all trees inside them. -/
def ThroughoutItems (P : Tree → Prop) : List Tree → Prop
  | [] => True
  | item :: rest => item.Throughout P ∧ ThroughoutItems P rest

/-- A property of the values of an object and of all trees inside them. -/
def ThroughoutMembers (P : Tree → Prop) : List (String × Tree) → Prop
  | [] => True
  | member :: rest => member.2.Throughout P ∧ ThroughoutMembers P rest

end

theorem throughoutItems_iff {P : Tree → Prop} {items : List Tree} :
    ThroughoutItems P items ↔ ∀ item ∈ items, item.Throughout P := by
  induction items with
  | nil => simp [ThroughoutItems]
  | cons item rest ih => rw [ThroughoutItems, ih, List.forall_mem_cons]

theorem throughoutMembers_iff {P : Tree → Prop} {members : List (String × Tree)} :
    ThroughoutMembers P members ↔ ∀ member ∈ members, member.2.Throughout P := by
  induction members with
  | nil => simp [ThroughoutMembers]
  | cons member rest ih => rw [ThroughoutMembers, ih, List.forall_mem_cons]

/-! ## Members of objects -/

/-- Puts a member in its place by the code points of the key. A key that is there already gets the
new value. -/
def insertMember (key : String) (value : Tree) : List (String × Tree) → List (String × Tree)
  | [] => [(key, value)]
  | (k, v) :: rest =>
    if key = k then (key, value) :: rest
    else if key < k then (key, value) :: (k, v) :: rest
    else (k, v) :: insertMember key value rest

/-- The members of an object in their order; of several with one key the last counts. -/
def sortMembers (members : List (String × Tree)) : List (String × Tree) :=
  members.foldl (fun sorted member => insertMember member.1 member.2 sorted) []

/-- Members with each key once and all keys in ascending order. -/
def Ascending (members : List (String × Tree)) : Prop :=
  (members.map (·.1)).Pairwise (· < ·)

theorem insertMember_greatest {key : String} (value : Tree) {sorted : List (String × Tree)}
    (greatest : ∀ member ∈ sorted, member.1 < key) :
    insertMember key value sorted = sorted ++ [(key, value)] := by
  induction sorted with
  | nil => rfl
  | cons member rest ih =>
      obtain ⟨below, others⟩ := List.forall_mem_cons.1 greatest
      have differs : key ≠ member.1 := fun same => String.lt_irrefl key (same ▸ below)
      have after : ¬key < member.1 := String.lt_asymm below
      rw [insertMember, if_neg differs, if_neg after, ih others, List.cons_append]

/-- Members whose keys ascend are in their order. -/
theorem sortMembers_ascending {members : List (String × Tree)}
    (ascending : Ascending members) : sortMembers members = members := by
  have run (sorted rest : List (String × Tree))
      (ascending : Ascending (sorted ++ rest)) :
      rest.foldl (fun sorted member => insertMember member.1 member.2 sorted) sorted
        = sorted ++ rest := by
    induction rest generalizing sorted with
    | nil => exact (List.append_nil sorted).symm
    | cons member rest ih =>
        have greatest : ∀ other ∈ sorted, other.1 < member.1 := by
          rw [Ascending, List.map_append, List.pairwise_append] at ascending
          intro other mem
          exact ascending.2.2 _ (List.mem_map_of_mem mem) _ List.mem_cons_self
        rw [List.append_cons] at ascending
        rw [List.foldl_cons, insertMember_greatest member.2 greatest, ih _ ascending,
          ← List.append_cons]
  exact run [] members ascending

theorem mem_insertMember {member : String × Tree} {key : String} {value : Tree}
    {sorted : List (String × Tree)} (mem : member ∈ insertMember key value sorted) :
    member = (key, value) ∨ member ∈ sorted := by
  induction sorted with
  | nil => exact .inl (List.mem_singleton.1 mem)
  | cons other rest ih =>
      rw [insertMember] at mem
      by_cases same : key = other.1
      · rw [if_pos same] at mem
        exact (List.mem_cons.1 mem).imp_right (List.mem_cons_of_mem _)
      · rw [if_neg same] at mem
        by_cases before : key < other.1
        · rw [if_pos before] at mem
          exact List.mem_cons.1 mem
        · rw [if_neg before] at mem
          rcases List.mem_cons.1 mem with rfl | later
          · exact .inr List.mem_cons_self
          · exact (ih later).imp_right (List.mem_cons_of_mem _)

theorem mem_sortMembers {member : String × Tree} {members : List (String × Tree)}
    (mem : member ∈ sortMembers members) : member ∈ members := by
  have run (sorted rest : List (String × Tree))
      (mem : member ∈ rest.foldl (fun sorted m => insertMember m.1 m.2 sorted) sorted) :
      member ∈ sorted ∨ member ∈ rest := by
    induction rest generalizing sorted with
    | nil => exact .inl mem
    | cons first rest ih =>
        rcases ih _ mem with inserted | later
        · rcases mem_insertMember inserted with rfl | before
          · exact .inr List.mem_cons_self
          · exact .inl before
        · exact .inr (List.mem_cons_of_mem _ later)
  rcases run [] members mem with none | given
  · exact absurd none List.not_mem_nil
  · exact given

theorem ascending_insertMember (key : String) (value : Tree) {sorted : List (String × Tree)}
    (ascending : Ascending sorted) : Ascending (insertMember key value sorted) := by
  induction sorted with
  | nil => exact List.pairwise_singleton _ _
  | cons other rest ih =>
      obtain ⟨first, others⟩ := List.pairwise_cons.1 ascending
      rw [insertMember]
      by_cases same : key = other.1
      · rw [if_pos same]
        subst same
        exact ascending
      · rw [if_neg same]
        by_cases before : key < other.1
        · rw [if_pos before]
          refine List.pairwise_cons.2 ⟨fun k mem => ?_, ascending⟩
          rcases List.mem_cons.1 mem with rfl | later
          · exact before
          · exact String.lt_trans before (first k later)
        · rw [if_neg before]
          refine List.pairwise_cons.2 ⟨fun k mem => ?_, ih others⟩
          obtain ⟨member, inserted, rfl⟩ := List.mem_map.1 mem
          rcases mem_insertMember inserted with rfl | later
          · exact Std.lt_of_le_of_ne (String.not_lt.1 before) (Ne.symm same)
          · exact first _ (List.mem_map_of_mem later)

theorem ascending_sortMembers (members : List (String × Tree)) :
    Ascending (sortMembers members) := by
  have run (sorted rest : List (String × Tree)) (ascending : Ascending sorted) :
      Ascending (rest.foldl (fun sorted m => insertMember m.1 m.2 sorted) sorted) := by
    induction rest generalizing sorted with
    | nil => exact ascending
    | cons member rest ih => exact ih _ (ascending_insertMember member.1 member.2 ascending)
  exact run [] members List.Pairwise.nil

/-- A tree that has, if it is an object, each key once and all keys in ascending order. -/
def Tree.KeysAscending : Tree → Prop
  | .object members => Ascending members
  | _ => True

theorem throughout_sortMembers {members : List (String × Tree)}
    (ordered : ThroughoutMembers Tree.KeysAscending members) :
    (Tree.object (sortMembers members)).Throughout Tree.KeysAscending := by
  refine ⟨ascending_sortMembers members, throughoutMembers_iff.2 fun member mem => ?_⟩
  exact throughoutMembers_iff.1 ordered member (mem_sortMembers mem)

end Json

/-! ## Documents -/

/-- A JSON document. -/
@[ext]
structure Json where
  tree : Json.Tree
  ordered : tree.Throughout Json.Tree.KeysAscending

namespace Json

/-- The document of nothing. -/
def null : Json :=
  ⟨.null, trivial⟩

/-- A document that is a truth value. -/
def bool (b : Bool) : Json :=
  ⟨.bool b, trivial⟩

/-- A document that is an integer. -/
def integer (n : WordInteger) : Json :=
  ⟨.integer n, trivial⟩

/-- A document that is a double. -/
def real (x : Binary64) : Json :=
  ⟨.real x, trivial⟩

/-- A document that is a string. -/
def string (s : String) : Json :=
  ⟨.string s, trivial⟩

/-- An array of documents. -/
def array (items : List Json) : Json where
  tree := .array (items.map tree)
  ordered := by
    refine ⟨trivial, throughoutItems_iff.2 fun item mem => ?_⟩
    obtain ⟨document, -, rfl⟩ := List.mem_map.1 mem
    exact document.ordered

/-- An object of documents; of several members with one key the last counts. -/
def object (members : List (String × Json)) : Json where
  tree := .object (sortMembers (members.map fun member => (member.1, member.2.tree)))
  ordered := by
    refine throughout_sortMembers (throughoutMembers_iff.2 fun member mem => ?_)
    obtain ⟨given, -, rfl⟩ := List.mem_map.1 mem
    exact given.2.ordered

/-- Equality of documents. -/
def same (a b : Json) : Bool :=
  a.tree.same b.tree

end Json

end SqlBuilder
