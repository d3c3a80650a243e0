/-
Sets of variables as a left-biased, ordered algebra.

A merge is the first set with the new members of the second behind it, so where both have
a name the first decides; order and precedence together make merging associative.  Sets
hold their members without keys.  Kept in an index instead, each member under a name and
a taken name never stored again, they come out the same however they are built: with
every member under its own name, and each name once.

* `members_merge`, `merge_assoc` — what a merge holds, in its order;
* `names_subtract_merge` — a part taken out and merged again leaves the same names;
* `sameNames_iff_perm` — to have the same names is to have them in some order;
* `Build.index_eq` — the index of a set that is built from other sets;
* `left_biased_algebra` — the laws together.
-/
import CommandTemplates.Variable.Canned
import CommandTemplates.Variable.Set
import Mathlib.Data.List.Perm.Subperm

namespace CommandTemplates

namespace VariableSet

/-! ### Comparing names -/

theorem sameNames_iff_perm {a b : VariableSet} :
    a.sameNames b = true ↔ a.names.Perm b.names := by
  have hsize : a.size = b.size ↔ a.names.length = b.names.length := by simp [size, names]
  simp only [sameNames, Bool.and_eq_true, decide_eq_true_eq, List.all_eq_true, contains_iff,
    hsize]
  constructor
  · rintro ⟨hlength, hmem⟩
    -- without repeats, as many names among those of `b` are all of them
    have hsubperm : a.names.Subperm b.names := List.subperm_of_subset a.distinct hmem
    exact hsubperm.perm_of_length_le (Nat.le_of_eq hlength.symm)
  · intro hperm
    exact ⟨hperm.length_eq, fun name hname => hperm.mem_iff.1 hname⟩

/-! ### Merging -/

theorem eq_of_members {a b : VariableSet} (h : a.members = b.members) : a = b := by
  cases a
  cases b
  simpa using h

/-- Every set is the collection of its members. -/
theorem ofList_members (s : VariableSet) : ofList s.members = s :=
  eq_of_members (members_ofList s.distinct)

theorem members_merge (a b : VariableSet) :
    (a.merge b).members = a.members ++ b.members.filter fun v => !a.contains v.name :=
  members_foldl_insert b.distinct a

theorem empty_merge (s : VariableSet) : empty.merge s = s := ofList_members s

theorem merge_empty (s : VariableSet) : s.merge empty = s := rfl

theorem merge_assoc (a b c : VariableSet) : (a.merge b).merge c = a.merge (b.merge c) := by
  -- what is new to the merge is new to `b` and, of that, new to `a`
  -- what `c` adds to the merge of `a` and `b` is what it adds to `b`, less the names of `a`
  have hnew : (c.members.filter fun v => !(a.merge b).contains v.name) =
      (c.members.filter fun v => !b.contains v.name).filter fun v => !a.contains v.name := by
    rw [List.filter_filter]
    refine List.filter_congr fun v _ => ?_
    rw [contains_merge, Bool.not_or]
  refine eq_of_members ?_
  calc ((a.merge b).merge c).members
      = (a.merge b).members ++ c.members.filter (fun v => !(a.merge b).contains v.name) :=
        members_merge (a.merge b) c
    _ = a.members ++ (b.members ++ c.members.filter fun v => !b.contains v.name).filter
          (fun v => !a.contains v.name) := by
        rw [members_merge a b, hnew, List.filter_append, List.append_assoc]
    _ = a.members ++ (b.merge c).members.filter (fun v => !a.contains v.name) := by
        rw [members_merge b c]
    _ = (a.merge (b.merge c)).members := (members_merge a (b.merge c)).symm

/-! ### Taking out and merging again -/

/-- A part taken out of a set and merged with the rest again gives the same names. -/
theorem names_subtract_merge {a b : VariableSet} (h : ∀ name ∈ b.names, name ∈ a.names) :
    ((a.subtract b).merge b).names.Perm a.names := by
  have hnodup : ((a.subtract b).merge b).names.Nodup := ((a.subtract b).merge b).distinct
  -- no name is repeated on either side, so it is enough to have the same ones
  refine (List.perm_ext_iff_of_nodup hnodup a.distinct).2 fun name => ?_
  show name ∈ ((a.subtract b).merge b).names ↔ name ∈ a.names
  have hpart : b.contains name = true → a.contains name = true := by
    rw [contains_iff, contains_iff]
    exact h name
  rw [← contains_iff, ← contains_iff, contains_merge, contains_subtract]
  cases hb : b.contains name with
  | true => simp [hpart hb]
  | false => simp

end VariableSet

/-! ### Sets in an index -/

/-- Variables under names, in the order in which they were stored. -/
abbrev VariableIndex := List (String × Variable)

namespace VariableIndex

/-- The names under which something is stored. -/
def names (index : VariableIndex) : List String := index.map Prod.fst

/-- What is stored. -/
def stored (index : VariableIndex) : List Variable := index.map Prod.snd

/-- The index with a variable stored under its name, unless the name is taken. -/
def store (index : VariableIndex) (v : Variable) : VariableIndex :=
  if v.name ∈ index.names then index else index ++ [(v.name, v)]

end VariableIndex

namespace VariableSet

/-- A way to build a set. -/
inductive Build where
  | empty
  | insert (x : Build) (v : Variable)
  | collect (vs : List Variable)
  | merge (x y : Build)
  | subtract (x y : Build)

namespace Build

/-- The set that is built. -/
def set : Build → VariableSet
  | .empty => .empty
  | .insert x v => x.set.insert v
  | .collect vs => .ofList vs
  | .merge x y => x.set.merge y.set
  | .subtract x y => x.set.subtract y.set

/-- The index that is built where sets are kept in indexes: what is merged into another set is
stored behind it, and what a subtraction leaves is stored anew. -/
def index : Build → VariableIndex
  | .empty => []
  | .insert x v => x.index.store v
  | .collect vs => vs.foldl VariableIndex.store []
  | .merge x y => y.index.stored.foldl VariableIndex.store x.index
  | .subtract x y =>
    (x.index.stored.filter fun v => v.name ∉ y.index.names).foldl VariableIndex.store []

end Build

/-- The members of a set, each under its name. -/
def index (s : VariableSet) : VariableIndex := s.members.map fun v => (v.name, v)

@[simp] theorem names_index (s : VariableSet) : s.index.names = s.names := by
  rw [index, VariableIndex.names, List.map_map]
  rfl

@[simp] theorem stored_index (s : VariableSet) : s.index.stored = s.members := by
  rw [index, VariableIndex.stored, List.map_map]
  exact List.map_id' s.members

theorem lookup_index (s : VariableSet) (name : String) : s.index.lookup name = s.get? name := by
  rw [index, get?]
  induction s.members with
  | nil => rfl
  | cons v vs ih =>
    rw [List.map_cons, List.lookup_cons, List.find?_cons, ih]
    by_cases hname : v.name = name
    · simp [hname]
    · have hne : (name == v.name) = false := by simpa using Ne.symm hname
      simp [hname, hne]

theorem index_insert (s : VariableSet) (v : Variable) :
    (s.insert v).index = s.index.store v := by
  rw [VariableIndex.store, names_index, index, members_insert]
  split
  · rfl
  · rw [List.map_append]
    rfl

theorem index_foldl_insert (vs : List Variable) (s : VariableSet) :
    (vs.foldl insert s).index = vs.foldl VariableIndex.store s.index := by
  induction vs generalizing s with
  | nil => rfl
  | cons v vs ih => rw [List.foldl_cons, ih, index_insert, List.foldl_cons]

theorem index_ofList (vs : List Variable) :
    (ofList vs).index = vs.foldl VariableIndex.store [] :=
  index_foldl_insert vs empty

/-- However a set is built, its index holds its members, each under its name. -/
theorem Build.index_eq (x : Build) : x.index = x.set.index := by
  induction x with
  | empty => rfl
  | insert x v ih => rw [index, ih, set, index_insert]
  | collect vs => rw [index, set, index_ofList]
  | merge x y ihx ihy =>
    rw [index, ihx, ihy, stored_index, set, VariableSet.merge, index_foldl_insert]
  | subtract x y ihx ihy =>
    have hleft : (x.set.members.filter fun v => v.name ∉ y.set.names) =
        (x.set.subtract y.set).members := by
      simp [VariableSet.subtract, VariableSet.contains]
    rw [index, ihx, ihy, stored_index, names_index, hleft, ← index_ofList, ofList_members,
      set]

/-- The sets that insertions, collections, merges and subtractions build have each name once and
each member under its own name.  A lookup in a merge prefers the first set, whose members come
first and before the new ones of the second; merging is associative, with the empty set as its
identity.  A subtraction leaves the members with other names in their order, and if all names
taken away were there, merging them again restores the names. -/
theorem left_biased_algebra :
    (∀ x : Build, x.index.names.Nodup ∧ (∀ entry ∈ x.index, entry.1 = entry.2.name) ∧
      x.index.stored = x.set.members ∧ ∀ name, x.index.lookup name = x.set.get? name) ∧
    ∀ a b c : VariableSet,
      ((∀ name, (a.merge b).get? name = (a.get? name).or (b.get? name)) ∧
        (a.merge b).members = a.members ++ b.members.filter fun v => !a.contains v.name) ∧
      ((a.merge b).merge c = a.merge (b.merge c) ∧ empty.merge a = a ∧ a.merge empty = a) ∧
      ((a.subtract b).members = a.members.filter (fun v => !b.contains v.name) ∧
        (∀ name ∈ (a.subtract b).names, name ∉ b.names) ∧
        (a.subtract b).isDisjoint b = true) ∧
      ((∀ name ∈ b.names, name ∈ a.names) →
        ((a.subtract b).merge b).names.Perm a.names ∧
          ((a.subtract b).merge b).sameNames a = true) := by
  refine ⟨fun x => ?_, fun a b c => ?_⟩
  · rw [x.index_eq]
    refine ⟨?_, ?_, x.set.stored_index, x.set.lookup_index⟩
    · rw [names_index]
      exact x.set.distinct
    · intro entry hentry
      obtain ⟨v, -, rfl⟩ := List.mem_map.1 hentry
      rfl
  · refine ⟨⟨get?_merge a b, members_merge a b⟩,
      ⟨merge_assoc a b c, empty_merge a, merge_empty a⟩,
      ⟨rfl, isDisjoint_iff.1 (isDisjoint_subtract a b), isDisjoint_subtract a b⟩, ?_⟩
    intro hnames
    have hperm := names_subtract_merge hnames
    exact ⟨hperm, sameNames_iff_perm.2 hperm⟩

theorem left_biased_algebra_partition :
    let all := ofList [.canned "date" none, .canned "_who" none, .canned "file_name" none,
      .canned "_where" none]
    let dependent := ofList [.canned "_where" none, .canned "_who" none]
    (∀ name ∈ dependent.names, name ∈ all.names) ∧
      ((all.subtract dependent).merge dependent).sameNames all = true ∧
      ((all.subtract dependent).merge dependent).names =
        ["date", "file_name", "_where", "_who"] := by
  intro all dependent
  have hnames : ∀ name ∈ dependent.names, name ∈ all.names := by decide +kernel
  obtain ⟨-, -, -, hrestored⟩ := left_biased_algebra.2 all dependent empty
  exact ⟨hnames, (hrestored hnames).2, by decide +kernel⟩

end VariableSet

end CommandTemplates
