/-
Names in a registry.

Records of one name, in lowercase, are records of one id (`Registry.NamesApart`): this
holds of loaded registries and survives every edit, whatever ids the new records get.
So the name in placeholders leads back to the record that the registry finds under an
id (`Registry.get?_snapshot`).

* `Registry.not_isTaken_leastFreeNumber` — the number that names a new record is free;
* `Registry.load_eq_ok_iff` — records can be loaded if their names are words and differ
  in lowercase, and then they are the records of the registry;
* `Registry.NamesApart.load`, `NamesApart.create`, `NamesApart.rename`,
  `NamesApart.describe`, `NamesApart.delete` — names stay apart;
* `Registry.get?_snapshot` — a placeholder asks for the record found under an id.
-/
import CommandTemplates.Variable.Registry
import Mathlib.Data.List.Nodup
import Mathlib.Data.List.Perm.Subperm

namespace CommandTemplates

/-! ### Numbers as names -/

namespace Text

theorem lowerCharacter_digit {c : Char} (h : c.isDigit = true) : lowerCharacter c = [c] := by
  have htable : ∀ n ∈ List.range' 48 10, Table.lowercase.find? (·.holds n) = none := by
    decide +kernel
  have hrange : c.toNat ∈ List.range' 48 10 := by
    have hbounds : 48 ≤ c.toNat ∧ c.toNat ≤ 57 := Char.isDigit_iff_toNat.1 h
    rw [List.mem_range'_1]
    omega
  have hdot : c ≠ '\u0130' := by
    rintro rfl
    simp at h
  rw [lowerCharacter, if_neg hdot, htable c.toNat hrange]

theorem lowerAfter_digits {before cs : List Char} (h : ∀ c ∈ cs, c.isDigit = true) :
    lowerAfter before cs = cs := by
  induction cs generalizing before with
  | nil => rfl
  | cons c cs ih =>
    have hc : c.isDigit = true := h c List.mem_cons_self
    have hsigma : c ≠ 'Σ' := by
      rintro rfl
      simp at hc
    rw [lowerAfter, if_neg hsigma, lowerCharacter_digit hc,
      ih fun d hd => h d (List.mem_cons_of_mem c hd), List.singleton_append]

theorem isDigit_of_mem_toString {n : Nat} {c : Char} (h : c ∈ (toString n).toList) :
    c.isDigit = true := by
  refine Nat.isDigit_of_mem_toDigits (b := 10) (n := n) (by omega) (by omega) ?_
  simpa using h

theorem lowercase_toString (n : Nat) : lowercase (toString n) = toString n := by
  rw [lowercase, lowerAfter_digits fun c hc => isDigit_of_mem_toString hc, String.ofList_toList]

theorem toString_injective : Function.Injective fun n : Nat => toString n := by
  intro m n hmn
  have hread := congrArg (fun name => Nat.ofDigitChars 10 name.toList 0) hmn
  simpa using hread

end Text

namespace Registry

variable {r : Registry} {id : VariableId} {record : CustomVariable}

theorem isTaken_iff {name : String} {owner : Option VariableId} :
    r.isTaken name owner = true ↔
      ∃ c ∈ r.custom, some c.id ≠ owner ∧ Text.lowercase c.name = Text.lowercase name := by
  simp [isTaken]

/-- Among one more numbers than there are records one names no record. -/
theorem exists_free (r : Registry) :
    ∃ n ∈ List.range' 1 (r.custom.length + 1), r.isTaken (toString n) = false := by
  by_contra hnone
  -- otherwise the numbers, which differ, are all among the names
  have hsubset : (List.range' 1 (r.custom.length + 1)).map (fun n => toString n) ⊆
      r.custom.map fun c => Text.lowercase c.name := by
    intro name hname
    obtain ⟨n, hn, rfl⟩ := List.mem_map.1 hname
    have htaken : r.isTaken (toString n) = true := by
      rw [← Bool.not_eq_false]
      exact fun hfree => hnone ⟨n, hn, hfree⟩
    obtain ⟨c, hc, -, hlower⟩ := isTaken_iff.1 htaken
    rw [Text.lowercase_toString] at hlower
    exact List.mem_map.2 ⟨c, hc, hlower⟩
  have hnodup : ((List.range' 1 (r.custom.length + 1)).map fun n => toString n).Nodup :=
    List.Nodup.map Text.toString_injective List.nodup_range'
  have hlength := (hnodup.subperm hsubset).length_le
  simp only [List.length_map, List.length_range'] at hlength
  omega

/-- The search for the least free number finds one within its bound. -/
theorem find?_leastFreeNumber (r : Registry) :
    (List.range' 1 (r.custom.length + 1)).find? (fun n => !r.isTaken (toString n)) =
      some r.leastFreeNumber := by
  obtain ⟨n, hn, hfree⟩ := r.exists_free
  have hsome : ((List.range' 1 (r.custom.length + 1)).find?
      fun n => !r.isTaken (toString n)).isSome = true := by
    rw [List.find?_isSome]
    exact ⟨n, hn, by rw [hfree]; rfl⟩
  obtain ⟨least, hleast⟩ := Option.isSome_iff_exists.1 hsome
  rw [leastFreeNumber, hleast, Option.getD_some]

theorem not_isTaken_leastFreeNumber (r : Registry) :
    r.isTaken (toString r.leastFreeNumber) = false := by
  have htest := List.find?_some r.find?_leastFreeNumber
  simpa using htest

/-! ### What is accepted -/

theorem validateName_eq_ok_iff {name : String} {owner : Option VariableId} {u : Unit} :
    r.validateName name owner = .ok u ↔
      isVariableName name = true ∧ r.isTaken name owner = false := by
  unfold validateName
  cases hword : isVariableName name <;> cases htaken : r.isTaken name owner <;> simp

theorem add_eq_ok_iff {r' : Registry} :
    r.add record = .ok r' ↔
      (isVariableName record.name = true ∧ r.isTaken record.name = false) ∧
        r' = ⟨r.custom ++ [record]⟩ := by
  unfold add
  cases hvalid : r.validateName record.name with
  | error e =>
    have hnot : ¬ (isVariableName record.name = true ∧ r.isTaken record.name = false) := by
      intro haccepted
      rw [← validateName_eq_ok_iff (u := ()), hvalid] at haccepted
      simp at haccepted
    simp [Except.map, hnot]
  | ok u =>
    simp [Except.map, validateName_eq_ok_iff.1 hvalid, eq_comm]

theorem isTaken_append (r : Registry) (record : CustomVariable) (name : String) :
    isTaken ⟨r.custom ++ [record]⟩ name = false ↔
      r.isTaken name = false ∧ Text.lowercase record.name ≠ Text.lowercase name := by
  rw [isTaken, List.any_append, Bool.or_eq_false_iff]
  exact and_congr_right fun _ => by simp

/-- Records can be added one after the other if their names are words, are free and differ. -/
theorem foldlM_add_eq_ok_iff {r' : Registry} {records : List CustomVariable} :
    records.foldlM add r = .ok r' ↔
      r' = ⟨r.custom ++ records⟩ ∧
        (∀ record ∈ records, isVariableName record.name = true ∧ r.isTaken record.name = false) ∧
        (records.map fun c => Text.lowercase c.name).Nodup := by
  induction records generalizing r with
  | nil =>
    rw [List.foldlM_nil, List.append_nil]
    simp only [List.not_mem_nil, false_implies, implies_true, List.map_nil, List.nodup_nil,
      and_true]
    exact ⟨fun h => (Except.ok.inj h).symm, fun h => congrArg Except.ok h.symm⟩
  | cons record records ih =>
    have hadd : (record :: records).foldlM add r = .ok r' ↔
        ∃ next, r.add record = .ok next ∧ records.foldlM add next = .ok r' := by
      rw [List.foldlM_cons]
      cases r.add record <;> simp [bind, Except.bind]
    rw [hadd]
    constructor
    · rintro ⟨next, hnext, hrest⟩
      obtain ⟨hfirst, rfl⟩ := add_eq_ok_iff.1 hnext
      -- the records behind it are free in the registry that has the first one already
      obtain ⟨rfl, hrecords, hdistinct⟩ := ih.1 hrest
      refine ⟨by simp, ?_, ?_⟩
      · intro other hother
        rcases List.mem_cons.1 hother with rfl | hother
        · exact hfirst
        · obtain ⟨hword, hfree⟩ := hrecords other hother
          exact ⟨hword, ((isTaken_append r record other.name).1 hfree).1⟩
      · rw [List.map_cons, List.nodup_cons]
        refine ⟨?_, hdistinct⟩
        intro hmem
        obtain ⟨other, hother, hlower⟩ := List.mem_map.1 hmem
        exact ((isTaken_append r record other.name).1 (hrecords other hother).2).2 hlower.symm
    · rintro ⟨rfl, hrecords, hdistinct⟩
      rw [List.map_cons, List.nodup_cons] at hdistinct
      obtain ⟨hnew, hdistinct⟩ := hdistinct
      refine ⟨_, add_eq_ok_iff.2 ⟨hrecords record List.mem_cons_self, rfl⟩, ih.2 ⟨by simp, ?_,
        hdistinct⟩⟩
      intro other hother
      obtain ⟨hword, hfree⟩ := hrecords other (List.mem_cons_of_mem record hother)
      refine ⟨hword, (isTaken_append r record other.name).2 ⟨hfree, ?_⟩⟩
      exact fun hlower => hnew (List.mem_map.2 ⟨other, hother, hlower.symm⟩)

/-- Records can be loaded if their names are words that differ in lowercase; then they are the
records of the registry. -/
theorem load_eq_ok_iff {records : List CustomVariable} :
    load records = .ok r ↔
      r = ⟨records⟩ ∧ (∀ record ∈ records, isVariableName record.name = true) ∧
        (records.map fun c => Text.lowercase c.name).Nodup := by
  rw [load, foldlM_add_eq_ok_iff]
  simp [isTaken]

/-! ### Names stay apart -/

/-- Whether records of one name, in lowercase, are records of one id. -/
def NamesApart (r : Registry) : Prop :=
  ∀ a ∈ r.custom, ∀ b ∈ r.custom, Text.lowercase a.name = Text.lowercase b.name → a.id = b.id

theorem NamesApart.append (h : r.NamesApart) (hfree : r.isTaken record.name = false) :
    NamesApart ⟨r.custom ++ [record]⟩ := by
  have hnew : ∀ c ∈ r.custom, Text.lowercase c.name ≠ Text.lowercase record.name := by
    intro c hc hlower
    rw [← Bool.not_eq_true] at hfree
    exact hfree (isTaken_iff.2 ⟨c, hc, by simp, hlower⟩)
  intro a ha b hb hlower
  rcases List.mem_append.1 ha with ha | ha <;> rcases List.mem_append.1 hb with hb | hb
  · exact h a ha b hb hlower
  · rw [List.mem_singleton.1 hb] at hlower
    exact absurd hlower (hnew a ha)
  · rw [List.mem_singleton.1 ha] at hlower
    exact absurd hlower.symm (hnew b hb)
  · rw [List.mem_singleton.1 ha, List.mem_singleton.1 hb]

theorem NamesApart.load {records : List CustomVariable} (hload : Registry.load records = .ok r) :
    r.NamesApart := by
  obtain ⟨rfl, -, hdistinct⟩ := load_eq_ok_iff.1 hload
  intro a ha b hb hlower
  rw [List.inj_on_of_nodup_map hdistinct ha hb hlower]

theorem NamesApart.create (h : r.NamesApart) (freshId : VariableId) :
    (r.create freshId).2.NamesApart :=
  h.append r.not_isTaken_leastFreeNumber

theorem mem_updateFirst {f : CustomVariable → CustomVariable} {records : List CustomVariable}
    (h : record ∈ updateFirst id f records) :
    record ∈ records ∨ ∃ c ∈ records, c.id = id ∧ record = f c := by
  induction records with
  | nil => simp [updateFirst] at h
  | cons c records ih =>
    rw [updateFirst] at h
    split at h
    · next hid =>
      rcases List.mem_cons.1 h with rfl | h
      · exact .inr ⟨c, List.mem_cons_self, hid, rfl⟩
      · exact .inl (List.mem_cons_of_mem c h)
    · rcases List.mem_cons.1 h with rfl | h
      · exact .inl List.mem_cons_self
      · rcases ih h with h | ⟨d, hd, hid, rfl⟩
        · exact .inl (List.mem_cons_of_mem c h)
        · exact .inr ⟨d, List.mem_cons_of_mem c hd, hid, rfl⟩

theorem updateFirst_append {f : CustomVariable → CustomVariable} {record : CustomVariable}
    {before : List CustomVariable} (hid : record.id = id)
    (hbefore : ∀ other ∈ before, other.id ≠ id) (after : List CustomVariable) :
    updateFirst id f (before ++ record :: after) = before ++ f record :: after := by
  induction before with
  | nil => exact if_pos hid
  | cons other before ih =>
    have hother : other.id ≠ id := hbefore other List.mem_cons_self
    have hrest := ih fun o ho => hbefore o (List.mem_cons_of_mem other ho)
    rw [List.cons_append, updateFirst, if_neg hother, hrest, List.cons_append]

theorem update_eq_ok {f : CustomVariable → CustomVariable} {r' : Registry}
    (h : r.update id f = .ok r') : r' = ⟨updateFirst id f r.custom⟩ := by
  unfold update at h
  split at h
  · exact (Except.ok.inj h).symm
  · simp at h

theorem rename_eq_ok {name : String} {r' : Registry} (h : r.rename id name = .ok r') :
    (isVariableName name = true ∧ r.isTaken name (some id) = false) ∧
      r' = ⟨updateFirst id (fun c => { c with name }) r.custom⟩ := by
  unfold rename at h
  cases hvalid : r.validateName name (some id) with
  | error e => simp [hvalid, bind, Except.bind] at h
  | ok _ =>
    rw [hvalid] at h
    exact ⟨validateName_eq_ok_iff.1 hvalid, update_eq_ok h⟩

/-- Renaming may repeat a name only among records of the same id. -/
theorem NamesApart.rename {name : String} {r' : Registry} (h : r.NamesApart)
    (hrename : r.rename id name = .ok r') : r'.NamesApart := by
  obtain ⟨⟨-, hfree⟩, rfl⟩ := rename_eq_ok hrename
  have hother : ∀ c ∈ r.custom, Text.lowercase c.name = Text.lowercase name → c.id = id := by
    intro c hc hlower
    by_contra hid
    rw [← Bool.not_eq_true] at hfree
    exact hfree (isTaken_iff.2 ⟨c, hc, by simpa using hid, hlower⟩)
  intro a ha b hb hlower
  -- of two records none, one or both are the renamed one
  rcases mem_updateFirst ha with ha | ⟨a', ha', hida, rfl⟩ <;>
    rcases mem_updateFirst hb with hb | ⟨b', hb', hidb, rfl⟩
  · exact h a ha b hb hlower
  · exact (hother a ha hlower).trans hidb.symm
  · exact hida.trans (hother b hb hlower.symm).symm
  · exact hida.trans hidb.symm

theorem NamesApart.describe {description : String} {r' : Registry} (h : r.NamesApart)
    (hdescribe : r.describe id description = .ok r') : r'.NamesApart := by
  rw [update_eq_ok hdescribe]
  intro a ha b hb hlower
  -- a description is neither a name nor an id, so each record stands for one of before
  have hsource : ∀ c ∈ updateFirst id (fun c => { c with description }) r.custom,
      ∃ d ∈ r.custom, d.name = c.name ∧ d.id = c.id := by
    intro c hc
    rcases mem_updateFirst hc with hc | ⟨d, hd, -, rfl⟩
    · exact ⟨c, hc, rfl, rfl⟩
    · exact ⟨d, hd, rfl, rfl⟩
  obtain ⟨a', ha', hnamea, hida⟩ := hsource a ha
  obtain ⟨b', hb', hnameb, hidb⟩ := hsource b hb
  rw [← hida, ← hidb]
  refine h a' ha' b' hb' ?_
  rw [hnamea, hnameb, hlower]

theorem delete_eq_ok {r' : Registry} (h : r.delete id = .ok (record, r')) :
    r.find? id = some record ∧ r' = ⟨r.custom.eraseP fun c => c.id = id⟩ := by
  unfold delete at h
  split at h
  · next found hfound =>
    simp only [Except.ok.injEq, Prod.mk.injEq] at h
    obtain ⟨rfl, rfl⟩ := h
    exact ⟨hfound, rfl⟩
  · simp at h

theorem NamesApart.delete {r' : Registry} (h : r.NamesApart)
    (hdelete : r.delete id = .ok (record, r')) : r'.NamesApart := by
  rw [(delete_eq_ok hdelete).2]
  intro a ha b hb hlower
  exact h a (List.mem_of_mem_eraseP ha) b (List.mem_of_mem_eraseP hb) hlower

/-! ### From placeholders to records -/

/-- The first element of two kinds is one, if each is also of the other kind. -/
theorem eq_of_find? {α : Type} {p q : α → Bool} {l : List α} {a b : α}
    (ha : l.find? p = some a) (hb : l.find? q = some b) (hqa : q a = true) (hpb : p b = true) :
    a = b := by
  induction l with
  | nil => simp at ha
  | cons c l ih =>
    by_cases hp : p c = true
    · rw [List.find?_cons_of_pos hp, Option.some.injEq] at ha
      subst ha
      rw [List.find?_cons_of_pos hqa, Option.some.injEq] at hb
      exact hb
    · rw [List.find?_cons_of_neg hp] at ha
      by_cases hq : q c = true
      · rw [List.find?_cons_of_pos hq, Option.some.injEq] at hb
        exact absurd (hb ▸ hpb) hp
      · rw [List.find?_cons_of_neg hq] at hb
        exact ih ha hb

theorem find?_eq_none_iff : r.find? id = none ↔ id ∉ r.custom.map (·.id) := by
  rw [find?, List.find?_eq_none, List.mem_map]
  simp

theorem find?_eq_some_iff (hnodup : (r.custom.map (·.id)).Nodup) :
    r.find? id = some record ↔ record ∈ r.custom ∧ record.id = id := by
  constructor
  · intro h
    exact ⟨List.mem_of_find?_eq_some h, by simpa using List.find?_some h⟩
  · rintro ⟨hmem, rfl⟩
    have hsome : (r.find? record.id).isSome := by
      rw [find?, List.find?_isSome]
      exact ⟨record, hmem, by simp⟩
    obtain ⟨found, hfound⟩ := Option.isSome_iff_exists.1 hsome
    have hid : found.id = record.id := by simpa using List.find?_some hfound
    rw [hfound, List.inj_on_of_nodup_map hnodup (List.mem_of_find?_eq_some hfound) hmem hid]

theorem placeholderName_injective {a b : CustomVariable}
    (h : a.placeholderName = b.placeholderName) : a.name = b.name := by
  have hlist := congrArg String.toList h
  simp only [CustomVariable.placeholderName, String.toList_append] at hlist
  exact String.toList_injective (List.append_cancel_left hlist)

/-- No built-in variable has the name of a custom one. -/
theorem find?_builtin (record : CustomVariable) :
    Builtin.all.find? (fun v => v.name = record.placeholderName) = none := by
  have hunderscore : ∀ v ∈ Builtin.all, v.name.toList.head? ≠ some '_' := by decide
  rw [List.find?_eq_none]
  intro v hv hname
  refine hunderscore v hv ?_
  have hv' : v.name = record.placeholderName := by simpa using hname
  rw [hv', CustomVariable.placeholderName, String.toList_append]
  rfl

/-- A placeholder asks for the first record of its name, which has the id of every record of the
name. -/
theorem exists_get?_snapshot (h : r.NamesApart) (hmem : record ∈ r.custom) :
    ∃ first, r.custom.find? (fun c => c.placeholderName = record.placeholderName) = some first ∧
      first.placeholderName = record.placeholderName ∧ first.id = record.id ∧
      r.snapshot.get? record.placeholderName = some first.toVariable := by
  have hsome : (r.custom.find? fun c => c.placeholderName = record.placeholderName).isSome := by
    rw [List.find?_isSome]
    exact ⟨record, hmem, by simp⟩
  obtain ⟨first, hfirst⟩ := Option.isSome_iff_exists.1 hsome
  have hname : first.placeholderName = record.placeholderName := by
    simpa using List.find?_some hfirst
  have hid : first.id = record.id := by
    refine h first (List.mem_of_find?_eq_some hfirst) record hmem ?_
    rw [placeholderName_injective hname]
  have hcustom : (r.custom.map (·.toVariable)).find?
      (fun v => v.name = record.placeholderName) = some first.toVariable := by
    have hcomp : ((fun v : Variable => decide (v.name = record.placeholderName)) ∘
        fun c : CustomVariable => c.toVariable) =
        fun c => decide (c.placeholderName = record.placeholderName) := rfl
    rw [List.find?_map, hcomp, hfirst]
    rfl
  refine ⟨first, hfirst, hname, hid, ?_⟩
  rw [snapshot, VariableSet.get?_ofList, List.find?_append, find?_builtin, hcustom]
  rfl

/-- The placeholder of the record found under an id asks for that record. -/
theorem get?_snapshot (h : r.NamesApart) (hfind : r.find? id = some record) :
    r.snapshot.get? record.placeholderName = some record.toVariable := by
  have hid : record.id = id := by simpa using List.find?_some hfind
  obtain ⟨first, hfirst, hname, hsame, hget⟩ :=
    exists_get?_snapshot h (List.mem_of_find?_eq_some hfind)
  -- the first record of the name is of the same id, so it is the one found under the id
  have heq : record = first := by
    refine eq_of_find? hfind hfirst (by simp) ?_
    simp [hsame, hid]
  rw [hget, heq]

end Registry

end CommandTemplates
