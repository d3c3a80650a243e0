/-
Sets of variables, kept in the order in which they were added.

A set has at most one variable of each name, and the one that came first stays:
`insert` changes nothing if the name is taken, and `merge` prefers its first set.

* `get?_insert` — an insertion adds its variable and changes no other lookup;
* `get?_merge` — a merged set answers from the first set where it can;
* `contains_insert`, `contains_merge`, `contains_subtract` — the names of what is built;
* `members_foldl_insert` — what insertions add, in its order;
* `mem_subtract`, `isDisjoint_subtract` — what is left after taking names away.
-/
import CommandTemplates.Variable.Basic

namespace CommandTemplates

/-- Variables with distinct names, in the order in which they were added. -/
structure VariableSet where
  members : List Variable
  distinct : (members.map (·.name)).Nodup

namespace VariableSet

/-- The set without members. -/
def empty : VariableSet := ⟨[], by simp⟩

instance : Inhabited VariableSet := ⟨empty⟩

/-- The names of the members, in their order. -/
def names (s : VariableSet) : List String := s.members.map (·.name)

/-- Whether a member has the name. -/
def contains (s : VariableSet) (name : String) : Bool := name ∈ s.names

/-- The member with a name. -/
def get? (s : VariableSet) (name : String) : Option Variable :=
  s.members.find? fun v => v.name = name

/-- The number of members. -/
def size (s : VariableSet) : Nat := s.members.length

/-- The set with a variable at its end, unless its name is taken. -/
def insert (s : VariableSet) (v : Variable) : VariableSet :=
  if h : v.name ∈ s.members.map (·.name) then s
  else
    ⟨s.members ++ [v], by
      have := s.distinct
      grind⟩

/-- The set of a list; of equal names the first counts. -/
def ofList (vs : List Variable) : VariableSet := vs.foldl insert empty

/-- The members of `a`, then those of `b` whose names `a` does not have. -/
def merge (a b : VariableSet) : VariableSet := b.members.foldl insert a

/-- The members that a test accepts. -/
def filter (s : VariableSet) (p : Variable → Bool) : VariableSet :=
  ⟨s.members.filter p, (List.filter_sublist.map Variable.name).nodup s.distinct⟩

/-- The members of `a` whose names `b` does not have. -/
def subtract (a b : VariableSet) : VariableSet := a.filter fun v => !b.contains v.name

/-- Whether no name is in both sets. -/
def isDisjoint (a b : VariableSet) : Bool := a.names.all fun name => !b.contains name

/-- Whether the sets have the same names, in whatever order. -/
def sameNames (a b : VariableSet) : Bool := a.size = b.size && a.names.all b.contains

theorem contains_iff {s : VariableSet} {name : String} : s.contains name ↔ name ∈ s.names := by
  simp [contains]

@[simp] theorem members_empty : empty.members = [] := rfl

@[simp] theorem members_filter (s : VariableSet) (p : Variable → Bool) :
    (s.filter p).members = s.members.filter p := rfl

theorem members_insert (s : VariableSet) (v : Variable) :
    (s.insert v).members = if v.name ∈ s.names then s.members else s.members ++ [v] := by
  unfold insert names
  split <;> rfl

theorem get?_isSome (s : VariableSet) (name : String) :
    (s.get? name).isSome = s.contains name := by
  rw [get?, contains, Bool.eq_iff_iff, List.find?_isSome]
  simp [names]

theorem get?_insert (s : VariableSet) (v : Variable) (name : String) :
    (s.insert v).get? name =
      (s.get? name).or (if v.name = name then some v else none) := by
  unfold get?
  rw [members_insert]
  split
  · next h =>
    split
    · next hv =>
      subst hv
      have hs := s.get?_isSome v.name
      rw [contains, decide_eq_true h] at hs
      obtain ⟨w, hw⟩ := Option.isSome_iff_exists.1 hs
      unfold get? at hw
      rw [hw, Option.some_or]
    · rw [Option.or_none]
  · rw [List.find?_append]
    by_cases hv : v.name = name <;> simp [hv]

theorem get?_foldl_insert (vs : List Variable) (s : VariableSet) (name : String) :
    (vs.foldl insert s).get? name = (s.get? name).or (vs.find? fun v => v.name = name) := by
  induction vs generalizing s with
  | nil => simp
  | cons v vs ih =>
    rw [List.foldl_cons, ih, get?_insert, Option.or_assoc]
    by_cases hv : v.name = name <;> simp [hv]

theorem get?_merge (a b : VariableSet) (name : String) :
    (a.merge b).get? name = (a.get? name).or (b.get? name) :=
  get?_foldl_insert b.members a name

theorem get?_ofList (vs : List Variable) (name : String) :
    (ofList vs).get? name = vs.find? fun v => v.name = name :=
  get?_foldl_insert vs empty name

theorem contains_insert (s : VariableSet) (v : Variable) (name : String) :
    (s.insert v).contains name = (s.contains name || decide (v.name = name)) := by
  rw [← get?_isSome, ← get?_isSome, get?_insert, Option.isSome_or]
  by_cases hname : v.name = name <;> simp [hname]

theorem contains_merge (a b : VariableSet) (name : String) :
    (a.merge b).contains name = (a.contains name || b.contains name) := by
  simp only [← get?_isSome, get?_merge, Option.isSome_or]

/-- Of variables with different names those become members whose names the set does not have. -/
theorem members_foldl_insert {vs : List Variable} (hvs : (vs.map (·.name)).Nodup)
    (s : VariableSet) :
    (vs.foldl insert s).members = s.members ++ vs.filter fun v => !s.contains v.name := by
  induction vs generalizing s with
  | nil => simp
  | cons v vs ih =>
    rw [List.map_cons, List.nodup_cons] at hvs
    obtain ⟨hv, hvs⟩ := hvs
    -- an insertion of `v` does not take the name of any variable behind it
    have hothers : vs.filter (fun w => !(s.insert v).contains w.name) =
        vs.filter fun w => !s.contains w.name := by
      refine List.filter_congr fun w hw => ?_
      have hne : v.name ≠ w.name := fun heq => hv (heq ▸ List.mem_map_of_mem hw)
      rw [contains_insert, decide_eq_false hne, Bool.or_false]
    rw [List.foldl_cons, ih hvs, hothers, members_insert]
    by_cases htaken : v.name ∈ s.names
    · have hknown : s.contains v.name = true := contains_iff.2 htaken
      rw [if_pos htaken, List.filter_cons_of_neg (by simp [hknown])]
    · have hnew : s.contains v.name = false := by
        rw [← Bool.not_eq_true, contains_iff]
        exact htaken
      rw [if_neg htaken, List.filter_cons_of_pos (by simp [hnew]), List.append_assoc]
      rfl

/-- Variables of different names are all members, in their order. -/
theorem members_ofList {vs : List Variable} (h : (vs.map (·.name)).Nodup) :
    (ofList vs).members = vs := by
  have hmembers := members_foldl_insert h empty
  have hall : vs.filter (fun v => !empty.contains v.name) = vs :=
    List.filter_eq_self.2 fun _ _ => rfl
  rw [hall, members_empty, List.nil_append] at hmembers
  exact hmembers

/-- A set is determined by its lookups, up to the order of its members. -/
theorem mem_members_iff {s : VariableSet} {v : Variable} :
    v ∈ s.members ↔ s.get? v.name = some v := by
  constructor
  · intro hv
    obtain ⟨before, after, hsplit⟩ := List.append_of_mem hv
    have hdistinct := s.distinct
    rw [hsplit, List.map_append, List.map_cons, List.nodup_append] at hdistinct
    have hfirst : before.find? (fun w => w.name = v.name) = none := by
      rw [List.find?_eq_none]
      intro w hw hname
      refine hdistinct.2.2 w.name (List.mem_map_of_mem hw) v.name List.mem_cons_self ?_
      simpa using hname
    simp [get?, hsplit, hfirst]
  · intro hget
    exact List.mem_of_find?_eq_some hget

/-- A test that only looks at names decides for each name whether it stays. -/
theorem get?_filter (s : VariableSet) (keep : String → Bool) (name : String) :
    (s.filter fun v => keep v.name).get? name = if keep name then s.get? name else none := by
  rw [get?, members_filter, List.find?_filter, get?]
  split
  · next hkeep =>
    congr 1
    funext v
    by_cases hname : v.name = name <;> simp [hname, hkeep]
  · next hkeep =>
    rw [List.find?_eq_none]
    intro v hv hboth
    simp only [decide_eq_true_eq] at hboth
    exact hkeep (hboth.2 ▸ hboth.1)

theorem get?_subtract (a b : VariableSet) (name : String) :
    (a.subtract b).get? name = if b.contains name then none else a.get? name := by
  rw [subtract, a.get?_filter fun name => !b.contains name]
  cases b.contains name <;> rfl

theorem mem_subtract {a b : VariableSet} {v : Variable} :
    v ∈ (a.subtract b).members ↔ v ∈ a.members ∧ v.name ∉ b.names := by
  simp [subtract, contains]

theorem contains_subtract (a b : VariableSet) (name : String) :
    (a.subtract b).contains name = (a.contains name && !b.contains name) := by
  rw [← get?_isSome, ← get?_isSome, get?_subtract]
  cases b.contains name <;> simp

theorem isDisjoint_iff {a b : VariableSet} :
    a.isDisjoint b = true ↔ ∀ name ∈ a.names, name ∉ b.names := by
  simp [isDisjoint, contains]

theorem isDisjoint_subtract (a b : VariableSet) : (a.subtract b).isDisjoint b = true := by
  rw [isDisjoint_iff]
  intro name hleft hb
  rw [← contains_iff] at hleft hb
  rw [contains_subtract, hb] at hleft
  simp at hleft

end VariableSet

end CommandTemplates
