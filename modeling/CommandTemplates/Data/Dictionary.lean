/-
Finite maps that keep their keys in the order of first insertion.

A repeated key replaces the earlier value in its place.  Every operation is
described by two views, the list of keys and the lookup:

* `keys_insert` — a new key goes to the end, a known one changes no order;
* `get?_insert` — a lookup sees the inserted value at its key and nothing else changed;
* `get?_erase` — erasing removes exactly the one key.
-/

namespace CommandTemplates

/-- A map whose entries keep the order in which their keys were first inserted. -/
structure Dictionary (κ : Type) (α : Type) where
  entries : List (κ × α)
  distinct : (entries.map Prod.fst).Nodup

namespace Dictionary

variable {κ α β : Type} [DecidableEq κ]

/-- The entry list with `value` at `key`: in place for a known key, at the end for a new one. -/
def insertEntry (key : κ) (value : α) : List (κ × α) → List (κ × α)
  | [] => [(key, value)]
  | (k, v) :: rest =>
    if k = key then (key, value) :: rest else (k, v) :: insertEntry key value rest

theorem map_fst_insertEntry (key : κ) (value : α) (entries : List (κ × α)) :
    (insertEntry key value entries).map Prod.fst =
      if key ∈ entries.map Prod.fst then entries.map Prod.fst
      else entries.map Prod.fst ++ [key] := by
  induction entries with
  | nil => simp [insertEntry]
  | cons e rest ih =>
    obtain ⟨k, v⟩ := e
    by_cases h : k = key
    · simp [insertEntry, h]
    · have h' : ¬ key = k := fun e => h e.symm
      by_cases hm : key ∈ rest.map Prod.fst <;> simp_all [insertEntry]

theorem nodup_insertEntry (key : κ) (value : α) {entries : List (κ × α)}
    (h : (entries.map Prod.fst).Nodup) : ((insertEntry key value entries).map Prod.fst).Nodup := by
  rw [map_fst_insertEntry]
  split
  · exact h
  · next hk => grind

/-- The map without entries. -/
def empty : Dictionary κ α := ⟨[], by simp⟩

instance : Inhabited (Dictionary κ α) := ⟨empty⟩

/-- The map with `value` at `key`. -/
def insert (d : Dictionary κ α) (key : κ) (value : α) : Dictionary κ α :=
  ⟨insertEntry key value d.entries, nodup_insertEntry key value d.distinct⟩

/-- The map that a list of entries builds; of equal keys the last value counts. -/
def ofList (entries : List (κ × α)) : Dictionary κ α :=
  entries.foldl (fun d e => d.insert e.1 e.2) empty

/-- The value at a key. -/
def get? (d : Dictionary κ α) (key : κ) : Option α :=
  (d.entries.find? fun e => e.1 = key).map Prod.snd

/-- The keys, in the order of first insertion. -/
def keys (d : Dictionary κ α) : List κ := d.entries.map Prod.fst

/-- The values, in the order of their keys. -/
def values (d : Dictionary κ α) : List α := d.entries.map Prod.snd

/-- The number of keys. -/
def size (d : Dictionary κ α) : Nat := d.entries.length

/-- The map without a key. -/
def erase (d : Dictionary κ α) (key : κ) : Dictionary κ α :=
  ⟨d.entries.filter fun e => e.1 ≠ key,
    (List.filter_sublist.map Prod.fst).nodup d.distinct⟩

/-- The map with every value changed, the keys staying as they are. -/
def mapValues (d : Dictionary κ α) (f : α → β) : Dictionary κ β :=
  ⟨d.entries.map fun e => (e.1, f e.2), by simpa [Function.comp_def] using d.distinct⟩

/-- Changes the values from first to last while a state is passed along. -/
def passEntries {σ : Type} (f : σ → α → β × σ) : σ → List (κ × α) → List (κ × β) × σ
  | s, [] => ([], s)
  | s, (k, v) :: rest =>
    let (w, s) := f s v
    let (rest, s) := passEntries f s rest
    ((k, w) :: rest, s)

omit [DecidableEq κ] in
theorem map_fst_passEntries {σ : Type} (f : σ → α → β × σ) (s : σ) (entries : List (κ × α)) :
    (passEntries f s entries).1.map Prod.fst = entries.map Prod.fst := by
  induction entries generalizing s with
  | nil => rfl
  | cons e rest ih => simp [passEntries, ih]

/-- The map with its values changed from first to last while a state is passed along. -/
def passValues {σ : Type} (d : Dictionary κ α) (f : σ → α → β × σ) (s : σ) :
    Dictionary κ β × σ :=
  (⟨(passEntries f s d.entries).1, by rw [map_fst_passEntries]; exact d.distinct⟩,
    (passEntries f s d.entries).2)

@[simp] theorem get?_empty (key : κ) : (empty : Dictionary κ α).get? key = none := rfl

theorem keys_insert (d : Dictionary κ α) (key : κ) (value : α) :
    (d.insert key value).keys = if key ∈ d.keys then d.keys else d.keys ++ [key] :=
  map_fst_insertEntry key value d.entries

theorem get?_insert (d : Dictionary κ α) (key key' : κ) (value : α) :
    (d.insert key value).get? key' = if key = key' then some value else d.get? key' := by
  simp only [get?, insert]
  induction d.entries with
  | nil => by_cases h : key = key' <;> simp [insertEntry, h]
  | cons e rest ih =>
    obtain ⟨k, v⟩ := e
    by_cases hk : k = key <;> by_cases h : key = key' <;> by_cases hk' : k = key' <;>
      simp_all [insertEntry]

theorem mem_of_get? {d : Dictionary κ α} {key : κ} {value : α} (h : d.get? key = some value) :
    (key, value) ∈ d.entries := by
  obtain ⟨⟨k, v⟩, hfind, rfl⟩ := Option.map_eq_some_iff.1 h
  have hk : k = key := by simpa using List.find?_some hfind
  rw [← hk]
  exact List.mem_of_find?_eq_some hfind

theorem mem_of_mem_insertEntry {key : κ} {value : α} {entries : List (κ × α)} {e : κ × α}
    (h : e ∈ insertEntry key value entries) : e = (key, value) ∨ e ∈ entries := by
  induction entries with
  | nil => simpa [insertEntry] using h
  | cons first rest ih =>
    obtain ⟨k, v⟩ := first
    by_cases hk : k = key
    · simp only [insertEntry, hk, if_true, List.mem_cons] at h
      rcases h with h | h
      · exact .inl h
      · exact .inr (List.mem_cons_of_mem _ h)
    · simp only [insertEntry, hk, if_false, List.mem_cons] at h
      rcases h with rfl | h
      · exact .inr List.mem_cons_self
      · exact (ih h).imp id (List.mem_cons_of_mem _)

omit [DecidableEq κ] in
/-- What holds of the state and the values before stays true if each change keeps it true. -/
theorem forall_mem_passEntries {σ : Type} {f : σ → α → β × σ} {I : σ → Prop} {P : α → Prop}
    {Q : β → Prop} (hf : ∀ s v, I s → P v → Q (f s v).1 ∧ I (f s v).2) {s : σ} (hs : I s)
    {entries : List (κ × α)} (h : ∀ e ∈ entries, P e.2) :
    (∀ e ∈ (passEntries f s entries).1, Q e.2) ∧ I (passEntries f s entries).2 := by
  induction entries generalizing s with
  | nil => exact ⟨by simp [passEntries], hs⟩
  | cons first rest ih =>
    obtain ⟨k, v⟩ := first
    obtain ⟨hv, hs'⟩ := hf s v hs (h (k, v) List.mem_cons_self)
    obtain ⟨hrest, hlast⟩ := ih hs' fun e he => h e (List.mem_cons_of_mem _ he)
    refine ⟨?_, hlast⟩
    intro e he
    rcases List.mem_cons.1 he with rfl | he
    · exact hv
    · exact hrest e he

/-- The value at a key is changed in the state that the changes before it leave. -/
theorem exists_get?_passValues {σ : Type} (f : σ → α → β × σ) (d : Dictionary κ α) (s : σ)
    (key : κ) : ∃ s', (d.passValues f s).1.get? key = (d.get? key).map fun v => (f s' v).1 := by
  simp only [get?, passValues]
  induction d.entries generalizing s with
  | nil => exact ⟨s, rfl⟩
  | cons first rest ih =>
    obtain ⟨k, v⟩ := first
    by_cases hk : k = key
    · exact ⟨s, by simp [passEntries, hk]⟩
    · obtain ⟨s', hrest⟩ := ih (f s v).2
      exact ⟨s', by simpa [passEntries, hk] using hrest⟩

/-- A part of the values that no change touches is found as before. -/
theorem map_get?_passValues {σ γ : Type} {f : σ → α → β × σ} {part : α → γ} {part' : β → γ}
    (hf : ∀ s v, part' (f s v).1 = part v) (d : Dictionary κ α) (s : σ) (key : κ) :
    ((d.passValues f s).1.get? key).map part' = (d.get? key).map part := by
  obtain ⟨s', hget⟩ := d.exists_get?_passValues f s key
  rw [hget, Option.map_map]
  congr 1
  funext v
  exact hf s' v

theorem get?_mapValues (d : Dictionary κ α) (f : α → β) (key : κ) :
    (d.mapValues f).get? key = (d.get? key).map f := by
  simp [get?, mapValues, List.find?_map, Function.comp_def]

theorem get?_of_mem {d : Dictionary κ α} {key : κ} {value : α} (h : (key, value) ∈ d.entries) :
    d.get? key = some value := by
  obtain ⟨before, after, hsplit⟩ := List.append_of_mem h
  have hdistinct := d.distinct
  rw [hsplit, List.map_append, List.map_cons, List.nodup_append] at hdistinct
  have hfirst : before.find? (fun e => e.1 = key) = none := by
    rw [List.find?_eq_none]
    intro e he hkey
    have hne := hdistinct.2.2 e.1 (List.mem_map_of_mem he) key List.mem_cons_self
    exact hne (by simpa using hkey)
  simp [get?, hsplit, hfirst]

/-- The values are what the keys are found to have. -/
theorem values_eq_filterMap (d : Dictionary κ α) : d.values = d.keys.filterMap d.get? := by
  have go : ∀ l : List (κ × α), (∀ e ∈ l, e ∈ d.entries) →
      (l.map Prod.fst).filterMap d.get? = l.map Prod.snd := by
    intro l hl
    induction l with
    | nil => rfl
    | cons e l ih =>
      have he : d.get? e.1 = some e.2 := get?_of_mem (hl e List.mem_cons_self)
      rw [List.map_cons, List.filterMap_cons_some he, List.map_cons,
        ih fun e' he' => hl e' (List.mem_cons_of_mem e he')]
  exact (go d.entries fun _ he => he).symm

omit [DecidableEq κ] in
@[simp] theorem keys_mapValues (d : Dictionary κ α) (f : α → β) :
    (d.mapValues f).keys = d.keys := by
  simp [keys, mapValues]

omit [DecidableEq κ] in
@[simp] theorem keys_passValues {σ : Type} (d : Dictionary κ α) (f : σ → α → β × σ) (s : σ) :
    (d.passValues f s).1.keys = d.keys :=
  map_fst_passEntries f s d.entries

/-- Of several values inserted at a key the last counts. -/
theorem get?_foldl_insert (entries : List (κ × α)) (d : Dictionary κ α) (key : κ) :
    (entries.foldl (fun d e => d.insert e.1 e.2) d).get? key =
      (((entries.filter fun e => e.1 = key).getLast?).map Prod.snd).or (d.get? key) := by
  induction entries generalizing d with
  | nil => rfl
  | cons e rest ih =>
    rw [List.foldl_cons, ih, get?_insert]
    by_cases he : e.1 = key
    · cases hlast : (rest.filter fun e => e.1 = key).getLast? <;>
        simp [he, List.getLast?_cons, hlast]
    · simp [he]

theorem get?_ofList_of_mem {entries : List (κ × α)} (hdistinct : (entries.map Prod.fst).Nodup)
    {key : κ} {value : α} (h : (key, value) ∈ entries) :
    (ofList entries).get? key = some value := by
  obtain ⟨before, after, rfl⟩ := List.append_of_mem h
  rw [List.map_append, List.map_cons, List.nodup_append, List.nodup_cons] at hdistinct
  obtain ⟨-, ⟨hafter, -⟩, hbefore⟩ := hdistinct
  have hfirst : before.filter (fun e => e.1 = key) = [] := by
    rw [List.filter_eq_nil_iff]
    intro e he hkey
    have hne := hbefore e.1 (List.mem_map_of_mem he) key List.mem_cons_self
    exact hne (by simpa using hkey)
  have hlast : after.filter (fun e => e.1 = key) = [] := by
    rw [List.filter_eq_nil_iff]
    intro e he hkey
    exact hafter (List.mem_map.2 ⟨e, he, by simpa using hkey⟩)
  rw [ofList, get?_foldl_insert]
  simp [hfirst, hlast]

theorem get?_erase (d : Dictionary κ α) (key key' : κ) :
    (d.erase key).get? key' = if key = key' then none else d.get? key' := by
  simp only [get?, erase]
  induction d.entries with
  | nil => simp
  | cons e rest ih =>
    obtain ⟨k, v⟩ := e
    by_cases hk : k = key <;> by_cases h : key = key' <;> by_cases hk' : k = key' <;>
      simp_all

end Dictionary

end CommandTemplates
