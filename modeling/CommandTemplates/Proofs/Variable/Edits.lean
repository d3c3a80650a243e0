/-
Registries that loading and edits can reach.

* `Registry.Edited` — the registries that edits reach, whatever ids new records get;
* `Registry.Edited.isVariableName`, `Registry.Edited.namesApart` — their names are words,
  and records of one name, in lowercase, are records of one id;
* `Registry.members_snapshot` — the built-in variables, then one variable for each record.
-/
import CommandTemplates.Proofs.Variable.Names

namespace CommandTemplates

theorem isVariableName_toString (n : Nat) : isVariableName (toString n) = true := by
  -- ten characters to look up, whatever the number
  have hdigits : ∀ k ∈ List.range' 48 10, Text.isWordCharacter (Char.ofNat k) = true := by
    decide +kernel
  have hne : toString n ≠ "" := by
    intro hempty
    have hlist := congrArg String.toList hempty
    simp at hlist
  have hword : ∀ c ∈ (toString n).toList, Text.isWordCharacter c = true := by
    intro c hc
    have hbounds : 48 ≤ c.toNat ∧ c.toNat ≤ 57 :=
      Char.isDigit_iff_toNat.1 (Text.isDigit_of_mem_toString hc)
    have hcode := hdigits c.toNat (List.mem_range'_1.2 ⟨hbounds.1, by omega⟩)
    rwa [Char.ofNat_toNat] at hcode
  simp only [isVariableName, Bool.and_eq_true, decide_eq_true_eq, List.all_eq_true]
  exact ⟨hne, hword⟩

namespace Registry

variable {r : Registry}

/-! ### Edits -/

/-- The registries that loading and edits can reach. -/
inductive Edited : Registry → Prop
  | loaded {records : List CustomVariable} {r : Registry} : load records = .ok r → Edited r
  | created {r : Registry} (freshId : VariableId) : Edited r → Edited (r.create freshId).2
  | renamed {r r' : Registry} {id : VariableId} {name : String} :
    Edited r → r.rename id name = .ok r' → Edited r'
  | described {r r' : Registry} {id : VariableId} {description : String} :
    Edited r → r.describe id description = .ok r' → Edited r'
  | deleted {r r' : Registry} {id : VariableId} {record : CustomVariable} :
    Edited r → r.delete id = .ok (record, r') → Edited r'

theorem Edited.namesApart (h : r.Edited) : r.NamesApart := by
  induction h with
  | loaded hload => exact .load hload
  | created freshId _ ih => exact ih.create freshId
  | renamed _ hrename ih => exact ih.rename hrename
  | described _ hdescribe ih => exact ih.describe hdescribe
  | deleted _ hdelete ih => exact ih.delete hdelete

theorem Edited.isVariableName (h : r.Edited) :
    ∀ record ∈ r.custom, isVariableName record.name = true := by
  induction h with
  | loaded hload =>
    obtain ⟨rfl, hwords, -⟩ := load_eq_ok_iff.1 hload
    exact hwords
  | @created r freshId _ ih =>
    intro record hrecord
    rcases List.mem_append.1 hrecord with hrecord | hrecord
    · exact ih record hrecord
    · -- the name of a new record is not checked, but is a number
      rw [List.mem_singleton.1 hrecord]
      exact isVariableName_toString r.leastFreeNumber
  | renamed _ hrename ih =>
    obtain ⟨⟨hword, -⟩, rfl⟩ := rename_eq_ok hrename
    intro record hrecord
    rcases mem_updateFirst hrecord with hrecord | ⟨c, -, -, rfl⟩
    · exact ih record hrecord
    · exact hword
  | described _ hdescribe ih =>
    rw [update_eq_ok hdescribe]
    intro record hrecord
    rcases mem_updateFirst hrecord with hrecord | ⟨c, hc, -, rfl⟩
    · exact ih record hrecord
    · exact ih c hc
  | deleted _ hdelete ih =>
    rw [(delete_eq_ok hdelete).2]
    exact fun record hrecord => ih record (List.mem_of_mem_eraseP hrecord)

theorem NamesApart.nodup_lowercase (h : r.NamesApart) (hids : (r.custom.map (·.id)).Nodup) :
    (r.custom.map fun c => Text.lowercase c.name).Nodup := by
  refine List.Nodup.map_on ?_ (List.Nodup.of_map _ hids)
  intro a ha b hb hlower
  exact List.inj_on_of_nodup_map hids ha hb (h a ha b hb hlower)

/-! ### The snapshot -/

/-- As long as ids differ, the snapshot has the built-in variables and then one variable for each
record. -/
theorem members_snapshot (h : r.NamesApart) (hids : (r.custom.map (·.id)).Nodup) :
    r.snapshot.members = Builtin.all ++ r.custom.map (·.toVariable) := by
  refine VariableSet.members_ofList ?_
  have hcustom : (r.custom.map (·.placeholderName)).Nodup := by
    refine List.Nodup.map_on ?_ (List.Nodup.of_map _ hids)
    intro a ha b hb hname
    refine List.inj_on_of_nodup_map hids ha hb (h a ha b hb ?_)
    rw [placeholderName_injective hname]
  rw [List.map_append, List.map_map, List.nodup_append]
  refine ⟨Builtin.nodup_map_name, hcustom, ?_⟩
  intro name hname other hother heq
  obtain ⟨v, hv, rfl⟩ := List.mem_map.1 hname
  obtain ⟨record, -, rfl⟩ := List.mem_map.1 hother
  have hnone := List.find?_eq_none.1 (find?_builtin record) v hv
  exact hnone (decide_eq_true heq)

end Registry

end CommandTemplates
