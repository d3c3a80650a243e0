/-
Finite maps from text, sorted by key.

A settings file keeps events and defaults by name; going through them in the
order of their names makes every report about them independent of the order in
the file.  Keys are compared character by character, by code point.

* `keys_pairwise` — the keys ascend strictly, so a map is determined by its lookups;
* `get?_insert`, `get?_erase` — what an insertion and an erasure do to lookups;
* `ofList_entries` — the entries of a map build that map.
-/

namespace CommandTemplates

/-- A map from text whose entries ascend strictly by key. -/
structure SortedMap (α : Type) where
  entries : List (String × α)
  ascending : (entries.map Prod.fst).Pairwise (· < ·)

namespace SortedMap

variable {α : Type}

/-- The entry list with `value` at `key`, which goes before the first greater key. -/
def insertEntry (key : String) (value : α) : List (String × α) → List (String × α)
  | [] => [(key, value)]
  | (k, v) :: rest =>
    if k = key then (key, value) :: rest
    else if key < k then (key, value) :: (k, v) :: rest
    else (k, v) :: insertEntry key value rest

theorem mem_map_fst_insertEntry {key k : String} {value : α} {entries : List (String × α)}
    (h : k ∈ (insertEntry key value entries).map Prod.fst) :
    k = key ∨ k ∈ entries.map Prod.fst := by
  induction entries with
  | nil => simpa [insertEntry] using h
  | cons e rest ih =>
    obtain ⟨k', v⟩ := e
    simp only [insertEntry] at h
    split at h
    · simp_all
    · split at h
      · simp_all
      · simp only [List.map_cons, List.mem_cons] at h ⊢
        rcases h with h | h
        · exact .inr (.inl h)
        · exact (ih h).imp id .inr

theorem lt_of_ne_of_not_lt {a b : String} (hne : ¬ a = b) (hlt : ¬ b < a) : a < b := by
  by_cases h : a < b
  · exact h
  · exact absurd (String.le_antisymm (String.not_lt.1 hlt) (String.not_lt.1 h)) hne

theorem pairwise_insertEntry (key : String) (value : α) {entries : List (String × α)}
    (h : (entries.map Prod.fst).Pairwise (· < ·)) :
    ((insertEntry key value entries).map Prod.fst).Pairwise (· < ·) := by
  induction entries with
  | nil => simp [insertEntry]
  | cons e rest ih =>
    obtain ⟨k, v⟩ := e
    simp only [List.map_cons, List.pairwise_cons] at h
    obtain ⟨hk, hrest⟩ := h
    simp only [insertEntry]
    split
    · next heq => subst heq; exact List.pairwise_cons.2 ⟨hk, hrest⟩
    · split
      · next hlt =>
        simp only [List.map_cons, List.pairwise_cons, List.mem_cons, forall_eq_or_imp]
        exact ⟨⟨hlt, fun a ha => String.lt_trans hlt (hk a ha)⟩, hk, hrest⟩
      · next hne hlt =>
        simp only [List.map_cons, List.pairwise_cons]
        refine ⟨fun a ha => ?_, ih hrest⟩
        rcases mem_map_fst_insertEntry ha with rfl | ha
        · exact lt_of_ne_of_not_lt hne hlt
        · exact hk a ha

/-- The map without entries. -/
def empty : SortedMap α := ⟨[], by simp⟩

instance : Inhabited (SortedMap α) := ⟨empty⟩

/-- The map with `value` at `key`. -/
def insert (m : SortedMap α) (key : String) (value : α) : SortedMap α :=
  ⟨insertEntry key value m.entries, pairwise_insertEntry key value m.ascending⟩

/-- The map that a list of entries builds; of equal keys the last value counts. -/
def ofList (entries : List (String × α)) : SortedMap α :=
  entries.foldl (fun m e => m.insert e.1 e.2) empty

/-- The value at a key. -/
def get? (m : SortedMap α) (key : String) : Option α :=
  (m.entries.find? fun e => e.1 = key).map Prod.snd

/-- The keys, ascending. -/
def keys (m : SortedMap α) : List String := m.entries.map Prod.fst

/-- Whether the map has no entry. -/
def isEmpty (m : SortedMap α) : Bool := m.entries.isEmpty

/-- The map without a key. -/
def erase (m : SortedMap α) (key : String) : SortedMap α :=
  ⟨m.entries.filter fun e => e.1 ≠ key, m.ascending.sublist (List.filter_sublist.map Prod.fst)⟩

theorem keys_pairwise (m : SortedMap α) : m.keys.Pairwise (· < ·) := m.ascending

theorem nodup_keys (m : SortedMap α) : m.keys.Nodup := by
  refine m.keys_pairwise.imp fun {a b} hlt heq => ?_
  subst heq
  exact String.lt_irrefl a hlt

theorem get?_insert (m : SortedMap α) (key key' : String) (value : α) :
    (m.insert key value).get? key' = if key = key' then some value else m.get? key' := by
  simp only [get?, insert]
  induction m.entries with
  | nil => by_cases h : key = key' <;> simp [insertEntry, h]
  | cons e rest ih =>
    obtain ⟨k, v⟩ := e
    simp only [insertEntry]
    split
    · next heq => subst heq; by_cases h : k = key' <;> simp [h]
    · next hne =>
      split
      · by_cases h : key = key' <;> simp [h]
      · by_cases h : key = key' <;> by_cases hk' : k = key' <;> simp_all

theorem get?_erase (m : SortedMap α) (key key' : String) :
    (m.erase key).get? key' = if key = key' then none else m.get? key' := by
  simp only [get?, erase]
  induction m.entries with
  | nil => simp
  | cons e rest ih =>
    obtain ⟨k, v⟩ := e
    by_cases hk : k = key <;> by_cases h : key = key' <;> by_cases hk' : k = key' <;>
      simp_all

/-- An entry whose key is beyond all others goes to the end. -/
theorem insertEntry_of_lt {key : String} {value : α} {entries : List (String × α)}
    (h : ∀ k ∈ entries.map Prod.fst, k < key) :
    insertEntry key value entries = entries ++ [(key, value)] := by
  induction entries with
  | nil => rfl
  | cons e rest ih =>
    obtain ⟨k, v⟩ := e
    have hk : k < key := h k (by simp)
    have hne : ¬ k = key := fun heq => String.lt_irrefl key (heq ▸ hk)
    have hle : ¬ key < k := fun hlt => String.lt_irrefl k (String.lt_trans hk hlt)
    rw [insertEntry, if_neg hne, if_neg hle, ih fun a ha => h a (List.mem_cons_of_mem _ ha),
      List.cons_append]

/-- Entries in the order of their keys, all beyond those of a map, go to its end. -/
theorem entries_foldl_insert {m : SortedMap α} {rest : List (String × α)}
    (h : ((m.entries ++ rest).map Prod.fst).Pairwise (· < ·)) :
    (rest.foldl (fun m e => m.insert e.1 e.2) m).entries = m.entries ++ rest := by
  induction rest generalizing m with
  | nil => rw [List.foldl_nil, List.append_nil]
  | cons e rest ih =>
    have hlast : ∀ k ∈ m.entries.map Prod.fst, k < e.1 := by
      rw [List.map_append, List.pairwise_append] at h
      exact fun k hk => h.2.2 k hk e.1 (by simp)
    have hinsert : (m.insert e.1 e.2).entries = m.entries ++ [e] := insertEntry_of_lt hlast
    rw [List.foldl_cons, ih] <;> rw [hinsert, List.append_assoc, List.singleton_append]
    exact h

theorem ofList_entries (m : SortedMap α) : ofList m.entries = m := by
  have h : (ofList m.entries).entries = m.entries :=
    entries_foldl_insert (m := empty) m.ascending
  obtain ⟨entries, ascending⟩ := m
  exact mk.injEq .. ▸ h

end SortedMap

end CommandTemplates
