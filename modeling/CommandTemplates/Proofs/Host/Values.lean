/-
Values belong to custom variables that are there.

As long as no new custom variable gets an id that is in use, and values come from the
answers to prompts alone, no value outlives its variable.  A prompt is copied into the
preactions that commands remember; that none of them asks for a variable that is gone
is what `Host.Coherent` and `Host.InSync` say together.

* `Host.Orderly` — the actions of such a session;
* `Host.Assigns` — an action in which an answer to a prompt gives a value;
* `Host.value_of_performAll` — every value was there before, or some action assigned it;
* `Host.no_orphans` — what this comes to for a session from its start.
-/
import CommandTemplates.Proofs.Host.Sync

namespace CommandTemplates

/-! ### Values that answers give -/

theorem exists_mem_of_forall₂ {α β : Type} {R : α → β → Prop} {as : List α} {bs : List β}
    (h : List.Forall₂ R as bs) {b : β} (hb : b ∈ bs) : ∃ a ∈ as, R a b := by
  induction h with
  | nil => simp at hb
  | cons hfirst _ ih =>
    rcases List.mem_cons.1 hb with rfl | hb
    · exact ⟨_, List.mem_cons_self, hfirst⟩
    · obtain ⟨a, ha, hab⟩ := ih hb
      exact ⟨a, List.mem_cons_of_mem _ ha, hab⟩

/-- An answer is for the variable that a field of the prompt asks for. -/
theorem Exchange.exists_field {e : Exchange} {id : VariableId} {value : String}
    (h : (id, value) ∈ e.given) : ∃ field ∈ e.prompt.fields, field.target = id := by
  unfold Exchange.given at h
  split at h
  · obtain ⟨answered, hanswered, heq⟩ := List.mem_map.1 h
    obtain ⟨⟨field, i⟩, hfield, rfl⟩ := List.mem_map.1 hanswered
    exact ⟨field, (List.mem_zipIdx' hfield).2 ▸ List.getElem_mem _, congrArg Prod.fst heq⟩
  · simp at h

theorem PromptPreaction.mem_of_get?_store {values : ValueStore}
    {assigned : List (VariableId × String)} {id : VariableId} {value : String}
    (h : (store values assigned).get? id = some value) :
    values.get? id = some value ∨ (id, value) ∈ assigned := by
  rw [get?_store] at h
  rcases Option.or_eq_some_iff.1 h with hlast | ⟨-, hold⟩
  · obtain ⟨⟨id', value'⟩, hfound, rfl⟩ := Option.map_eq_some_iff.1 hlast
    obtain ⟨hmem, hid⟩ := List.mem_filter.1 (List.mem_of_getLast? hfound)
    obtain rfl : id' = id := by simpa using hid
    exact .inr hmem
  · exact .inl hold

theorem Command.prompt_mem_of_buildPreactions {settings : Settings} {registry : Registry}
    {configs : List PreactionConfig} {p : PromptPreaction} {prompt : PromptConfig}
    (hp : p ∈ buildPreactions settings registry configs) (hprompt : p.prompt = some prompt) :
    prompt ∈ settings.prompts := by
  obtain ⟨⟨enabled, ⟨id⟩⟩, -, rfl⟩ := List.mem_map.1 hp
  exact List.mem_of_find?_eq_some hprompt

namespace Host

variable {h h' : Host} {action : Action} {id : VariableId} {value : String}

/-- Every value after a preparation was there before, or an accepted answer gave it. -/
theorem Prepares.value_cases {c : Command} {event : Option Event} {outcome : Preparation}
    {values : ValueStore} {exchanges : List Exchange}
    (hprepares : h.Prepares c event outcome values exchanges)
    (hvalue : values.get? id = some value) :
    h.values.get? id = some value ∨
      ∃ e ∈ exchanges, (id, value) ∈ e.given ∧
        ∃ p ∈ c.preactions h.settings h.registry, p.Accepts e := by
  -- in every course the values at the end are those stored for some of the exchanges, all of
  -- them accepted
  have hgiven : ∀ accepted : List Exchange, accepted ⊆ exchanges →
      (∀ e ∈ accepted, ∃ p ∈ c.preactions h.settings h.registry, p.Accepts e) →
      (PromptPreaction.store h.values (accepted.flatMap (·.given))).get? id = some value →
      h.values.get? id = some value ∨
        ∃ e ∈ exchanges, (id, value) ∈ e.given ∧
          ∃ p ∈ c.preactions h.settings h.registry, p.Accepts e := by
    intro accepted hsubset haccepted hstored
    rcases PromptPreaction.mem_of_get?_store hstored with hold | hnew
    · exact .inl hold
    · obtain ⟨e, he, hmem⟩ := List.mem_flatMap.1 hnew
      exact .inr ⟨e, hsubset he, hmem, haccepted e he⟩
  cases hprepares with
  | mistaken => exact .inl hvalue
  | @ended exchanges accepted _ _ hends =>
    -- only the exchanges before the one that ended it were accepted
    obtain ⟨hsteps, haccepted, -⟩ := hends
    refine hgiven accepted (List.subset_append_left _ _) ?_ hvalue
    intro e he
    obtain ⟨p, hp, haccepts⟩ := exists_mem_of_forall₂ haccepted he
    exact ⟨p, hsteps ▸ List.mem_append_left _ hp, haccepts⟩
  | failed _ hall hvalues =>
    exact hgiven exchanges (List.Subset.refl _) (fun e he => exists_mem_of_forall₂ hall he)
      (hvalues ▸ hvalue)
  | ready _ hall hvalues =>
    exact hgiven exchanges (List.Subset.refl _) (fun e he => exists_mem_of_forall₂ hall he)
      (hvalues ▸ hvalue)

/-! ### Sessions without direct values -/

theorem values_of_opened {settings : Settings} {environment : Environment}
    (hopen : ofSettings settings environment = .ok h) : h.values = .empty := by
  unfold ofSettings at hopen
  cases hvalid : settings.validate with
  | error e => simp [hvalid, bind, Except.bind, Except.mapError] at hopen
  | ok _ =>
    cases hload : Registry.load settings.customVariables with
    | error e => simp [hvalid, hload, bind, Except.bind, Except.mapError] at hopen
    | ok registry =>
      simp only [hvalid, hload, bind, Except.bind, Except.mapError, pure, Except.pure,
        Except.ok.injEq] at hopen
      rw [← hopen]

/-- Whether an action gives no value to a custom variable but by answers to prompts. -/
def Action.IsIndirect : Action → Prop
  | .setValue _ _ => False
  | _ => True

/-- Whether some actions, one after the other, add no custom variable under an id that is in use and
give no value but by answers to prompts. -/
def Orderly (h : Host) : List Action → Prop
  | [] => True
  | action :: actions =>
    action.IsFresh h ∧ action.IsIndirect ∧ (h.perform action).Orderly actions

/-- The host after some actions. -/
def performAll (h : Host) (actions : List Action) : Host := actions.foldl perform h

theorem Reachable.performAll (hreachable : h.Reachable) (actions : List Action) :
    (h.performAll actions).Reachable := by
  induction actions generalizing h with
  | nil => exact hreachable
  | cons action actions ih => exact ih (hreachable.performed action)

theorem Orderly.of_append {before after : List Action} (h' : h.Orderly (before ++ after)) :
    h.Orderly before := by
  induction before generalizing h with
  | nil => trivial
  | cons action before ih => exact ⟨h'.1, h'.2.1, ih h'.2.2⟩

theorem Orderly.isIndirect {actions : List Action} (horderly : h.Orderly actions) :
    ∀ action ∈ actions, action.IsIndirect := by
  induction actions generalizing h with
  | nil => simp
  | cons first actions ih =>
    intro action haction
    rcases List.mem_cons.1 haction with rfl | haction
    · exact horderly.2.1
    · exact ih horderly.2.2 action haction

/-- Whether an action is a preparation in which an answer gives a value to a custom variable: it is
among the exchanges with the user, and a preaction of the command accepts it. -/
def Assigns (h : Host) (action : Action) (id : VariableId) (value : String) : Prop :=
  ∃ commandId event replies c, action = .prepare commandId event replies ∧
    h.command? commandId = some c ∧
    ∃ e ∈ ((h.prepare Script.channel.recorded c event).run ({ replies }, [])).2.2,
      (id, value) ∈ e.given ∧ ∃ p ∈ c.preactions h.settings h.registry, p.Accepts e

/-- Every value after an action was there before, or the action assigned it. -/
theorem value_of_perform (hindirect : action.IsIndirect)
    (hvalue : (h.perform action).values.get? id = some value) :
    h.values.get? id = some value ∨ h.Assigns action id value := by
  have hstep := h.step_perform action
  generalize hafter : h.perform action = after at hstep hvalue
  cases hstep with
  | refused => exact .inl hvalue
  | created => exact .inl hvalue
  | renamed => exact .inl hvalue
  | described => exact .inl hvalue
  -- a deletion only takes values away
  | deleted =>
    change (h.values.erase _).get? id = some value at hvalue
    rw [Dictionary.get?_erase] at hvalue
    split at hvalue
    · simp at hvalue
    · exact .inl hvalue
  | edited => exact .inl hvalue
  | valueSet => exact hindirect.elim
  | previewed => exact .inl hvalue
  | inspected => exact .inl hvalue
  | @prepared commandId c event replies _ _ _ hcommand _ =>
    obtain ⟨outcome, values, exchanges, s', hrun, hprepares⟩ :=
      prepare_recorded Script.channel { replies } [] h c event
    have hplain := prepare_of_recorded Script.channel { replies } [] h c event
    rw [hrun] at hplain
    -- what the action leaves is what the recorded run leaves
    have hafter' : h.perform (.prepare commandId event replies) =
        { h.rememberPreactions c.id with values } := by
      simp only [perform, hcommand]
      show (h.prepare Script.channel c event { replies }).1.2 = _
      rw [hplain]
    rw [← hafter, hafter'] at hvalue
    refine (hprepares.value_cases hvalue).imp_right ?_
    rintro ⟨e, he, hgiven, haccepted⟩
    refine ⟨commandId, event, replies, c, rfl, hcommand, e, ?_, hgiven, haccepted⟩
    show e ∈ (h.prepare Script.channel.recorded c event ({ replies }, [])).2.2
    rw [hrun]
    exact he

/-- Every value after some actions was there before, or one of them assigned it. -/
theorem value_of_performAll {actions : List Action}
    (hindirect : ∀ action ∈ actions, action.IsIndirect)
    (hvalue : (h.performAll actions).values.get? id = some value) :
    h.values.get? id = some value ∨
      ∃ before action after, actions = before ++ action :: after ∧
        (h.performAll before).Assigns action id value := by
  induction actions generalizing h with
  | nil => exact .inl hvalue
  | cons action actions ih =>
    have hrest : ∀ later ∈ actions, later.IsIndirect := fun later hlater =>
      hindirect later (List.mem_cons_of_mem action hlater)
    rcases ih hrest hvalue with hvalue | ⟨before, later, after, rfl, hassigns⟩
    · refine (value_of_perform (hindirect action List.mem_cons_self) hvalue).imp_right ?_
      intro hassigns
      exact ⟨[], action, actions, rfl, hassigns⟩
    · exact .inr ⟨action :: before, later, after, rfl, hassigns⟩

/-! ### Ids -/

/-- An id comes with the creation of its variable. -/
theorem Step.mem_ids_before (hstep : h.Step action h')
    (hid : id ∈ h'.registry.custom.map (·.id)) :
    id ∈ h.registry.custom.map (·.id) ∨ action = .createVariable id := by
  cases hstep with
  | refused => exact .inl hid
  | created freshId =>
    have hids : id ∈ (h.registry.custom ++ [(h.registry.create freshId).1]).map (·.id) := hid
    rw [List.map_append, List.mem_append] at hids
    refine hids.imp_right ?_
    intro hlast
    rw [List.map_singleton, List.mem_singleton] at hlast
    rw [hlast]
    rfl
  | renamed hrename => exact .inl (Registry.map_id_of_rename hrename ▸ hid)
  | described hdescribe => exact .inl (Registry.map_id_of_describe hdescribe ▸ hid)
  | deleted hdelete =>
    rw [(Registry.delete_eq_ok hdelete).2] at hid
    exact .inl ((List.eraseP_sublist.map _).subset hid)
  | edited => exact .inl hid
  | valueSet => exact .inl hid
  | previewed => exact .inl hid
  | inspected => exact .inl hid
  | prepared => exact .inl hid

/-- An id goes with the deletion of its variable. -/
theorem Step.mem_ids_after (hstep : h.Step action h')
    (hid : id ∈ h.registry.custom.map (·.id)) :
    id ∈ h'.registry.custom.map (·.id) ∨
      action = .deleteVariable id ∧ h'.values.get? id = none := by
  cases hstep with
  | refused => exact .inl hid
  | created freshId =>
    refine .inl ?_
    show id ∈ (h.registry.custom ++ [(h.registry.create freshId).1]).map (·.id)
    rw [List.map_append]
    exact List.mem_append_left _ hid
  | renamed hrename => exact .inl ((Registry.map_id_of_rename hrename).symm ▸ hid)
  | described hdescribe => exact .inl ((Registry.map_id_of_describe hdescribe).symm ▸ hid)
  | @deleted deletedId _ _ hdelete =>
    obtain ⟨-, rfl⟩ := Registry.delete_eq_ok hdelete
    -- the record of the id itself is gone, together with its value; every other record stays
    by_cases hsame : deletedId = id
    · refine .inr ⟨hsame ▸ rfl, ?_⟩
      show (h.values.erase deletedId).get? id = none
      rw [Dictionary.get?_erase, if_pos hsame]
    · obtain ⟨record, hrecord, rfl⟩ := List.mem_map.1 hid
      have hkept : record ∈ h.registry.custom.eraseP fun c => c.id = deletedId :=
        (List.mem_eraseP_of_neg (by simpa using Ne.symm hsame)).2 hrecord
      exact .inl (List.mem_map_of_mem hkept)
  | edited => exact .inl hid
  | valueSet => exact .inl hid
  | previewed => exact .inl hid
  | inspected => exact .inl hid
  | prepared => exact .inl hid

theorem mem_ids_of_performAll {actions : List Action}
    (hid : id ∈ (h.performAll actions).registry.custom.map (·.id)) :
    id ∈ h.registry.custom.map (·.id) ∨ .createVariable id ∈ actions := by
  induction actions generalizing h with
  | nil => exact .inl hid
  | cons action actions ih =>
    rcases ih hid with hid | hcreated
    · rcases (h.step_perform action).mem_ids_before hid with hid | rfl
      · exact .inl hid
      · exact .inr List.mem_cons_self
    · exact .inr (List.mem_cons_of_mem action hcreated)

/-- After a deletion there is no custom variable of the id. -/
theorem InSync.not_mem_ids_of_delete (hsync : h.InSync) (id : VariableId) :
    id ∉ (h.perform (.deleteVariable id)).registry.custom.map (·.id) := by
  show id ∉ (((h.deleteVariable id).toOption.map Prod.snd).getD h).registry.custom.map (·.id)
  rw [deleteVariable]
  cases hdelete : h.registry.delete id with
  -- a deletion is refused only if there is no such record
  | error e =>
    rw [Registry.delete] at hdelete
    cases hfind : h.registry.find? id with
    | none => exact Registry.find?_eq_none_iff.1 hfind
    | some found => simp [hfind] at hdelete
  | ok found => exact Registry.not_mem_of_delete hsync.nodup_ids hdelete

/-! ### Sessions from their start -/

/-- A host of an orderly session: every id that has a value is the id of a custom variable. -/
structure Kept (h : Host) : Prop where
  reachable : h.FreshReachable
  owned : ∀ id value, h.values.get? id = some value → id ∈ h.registry.custom.map (·.id)

theorem kept_of_opened {settings : Settings} {environment : Environment}
    (hopen : ofSettings settings environment = .ok h) : h.Kept := by
  refine ⟨.opened hopen, ?_⟩
  intro id value hvalue
  rw [values_of_opened hopen] at hvalue
  simp at hvalue

/-- A prompt asks for custom variables that are there. -/
theorem Kept.mem_ids_of_assigns (hkept : h.Kept) (hassigns : h.Assigns action id value) :
    id ∈ h.registry.custom.map (·.id) := by
  obtain ⟨commandId, event, replies, c, -, hcommand, e, -, hgiven, p, hp, hprompt, -⟩ := hassigns
  have hcurrent := hkept.reachable.reachable.coherent.current c (List.mem_of_find?_eq_some hcommand)
  rw [hcurrent.preactions_eq] at hp
  obtain ⟨field, hfield, rfl⟩ := Exchange.exists_field hgiven
  -- a session in sync has no field without its variable
  exact hkept.reachable.inSync.targets e.prompt
    (Command.prompt_mem_of_buildPreactions hp hprompt) field hfield

theorem Kept.perform (hkept : h.Kept) (hfresh : action.IsFresh h) (hindirect : action.IsIndirect) :
    (h.perform action).Kept := by
  refine ⟨.performed hfresh hkept.reachable, ?_⟩
  intro id value hvalue
  have hid : id ∈ h.registry.custom.map (·.id) := by
    rcases value_of_perform hindirect hvalue with hold | hassigns
    · exact hkept.owned id value hold
    · exact hkept.mem_ids_of_assigns hassigns
  -- the action itself might remove the variable, but then it removes the value, too
  rcases (h.step_perform action).mem_ids_after hid with hid | ⟨-, hnone⟩
  · exact hid
  · rw [hvalue] at hnone
    simp at hnone

theorem Kept.performAll (hkept : h.Kept) {actions : List Action} (horderly : h.Orderly actions) :
    (h.performAll actions).Kept := by
  induction actions generalizing h with
  | nil => exact hkept
  | cons action actions ih =>
    obtain ⟨hfresh, hindirect, hrest⟩ := horderly
    exact ih (hkept.perform hfresh hindirect) hrest

theorem Kept.get?_eq_none (hkept : h.Kept) (hid : id ∉ h.registry.custom.map (·.id)) :
    h.values.get? id = none := by
  by_contra hsome
  obtain ⟨value, hvalue⟩ := Option.ne_none_iff_exists'.1 hsome
  exact hid (hkept.owned id value hvalue)

/-- Without a value a custom variable cannot be resolved. -/
theorem resolve_of_get?_eq_none {record : CustomVariable} (hnone : h.values.get? record.id = none)
    (arguments : Arguments) (event : Option Event) :
    record.toVariable.resolve arguments (h.context event) =
      .error (.noValue record.placeholderName) := by
  simp [Variable.resolve, Variable.refusal?, Variable.eventRefusal?, CustomVariable.toVariable,
    context, hnone]

/-- After its deletion an id has no value, and no prompt gives it one, until it is created again. -/
theorem Kept.after_delete (hkept : h.Kept) {more : List Action}
    (hmore : h.Orderly (.deleteVariable id :: more)) (hnew : .createVariable id ∉ more) :
    (h.performAll (.deleteVariable id :: more)).values.get? id = none ∧
      ∀ before action after, more = before ++ action :: after → ∀ value,
        ¬ (h.performAll (.deleteVariable id :: before)).Assigns action id value := by
  -- only a creation brings the id back, and there is none among the actions
  have habsent : ∀ before, .createVariable id ∉ before →
      id ∉ (h.performAll (.deleteVariable id :: before)).registry.custom.map (·.id) := by
    intro before hbefore hid
    have hcases : id ∈ (h.perform (.deleteVariable id)).registry.custom.map (·.id) ∨
        .createVariable id ∈ before := mem_ids_of_performAll hid
    exact hcases.elim (hkept.reachable.inSync.not_mem_ids_of_delete id) hbefore
  refine ⟨(hkept.performAll hmore).get?_eq_none (habsent more hnew), ?_⟩
  rintro before action after rfl value hassigns
  have hbefore : .createVariable id ∉ before := fun hmem => hnew (List.mem_append_left _ hmem)
  have hearlier : h.Orderly (.deleteVariable id :: before) :=
    ⟨hmore.1, hmore.2.1, hmore.2.2.of_append⟩
  exact habsent before hbefore ((hkept.performAll hearlier).mem_ids_of_assigns hassigns)

/-- After its creation an id has no value until an accepted answer gives it one. -/
theorem Kept.after_create (hkept : h.Kept) {more : List Action}
    (hmore : h.Orderly (.createVariable id :: more))
    (hvalue : (h.performAll (.createVariable id :: more)).values.get? id = some value) :
    ∃ before action after, more = before ++ action :: after ∧
      (h.performAll (.createVariable id :: before)).Assigns action id value := by
  rcases value_of_performAll hmore.2.2.isIndirect hvalue with hold | hassigned
  · -- the creation itself changes no value
    replace hold : h.values.get? id = some value := hold
    rw [hkept.get?_eq_none hmore.1] at hold
    simp at hold
  · exact hassigned

/-- A session in which no new custom variable gets an id that is in use, and no value is written but
by prompts.  Every value belongs to a custom variable that is there; after a deletion no prompt
gives the id a value again, unless a new variable gets it; and a new variable, whatever its name is
and whatever other variable had it, has no value until an accepted answer gives it one. -/
theorem no_orphans {settings : Settings} {environment : Environment} {opened : Host}
    {actions : List Action} (hopen : ofSettings settings environment = .ok opened)
    (horderly : opened.Orderly actions) :
    let h := opened.performAll actions
    (∀ id ∈ h.values.keys, id ∈ h.registry.custom.map (·.id)) ∧
      (∀ id more, h.Orderly (.deleteVariable id :: more) → .createVariable id ∉ more →
        (h.performAll (.deleteVariable id :: more)).values.get? id = none ∧
        ∀ before action after, more = before ++ action :: after → ∀ value,
          ¬ (h.performAll (.deleteVariable id :: before)).Assigns action id value) ∧
      ∀ id more, h.Orderly (.createVariable id :: more) →
        let later := h.performAll (.createVariable id :: more)
        (∃ value before action after, later.values.get? id = some value ∧
            more = before ++ action :: after ∧
            (h.performAll (.createVariable id :: before)).Assigns action id value) ∨
          later.values.get? id = none ∧
            ∀ record : CustomVariable, record.id = id → ∀ arguments event,
              record.toVariable.resolve arguments (later.context event) =
                .error (.noValue record.placeholderName) := by
  intro h
  have hkept : h.Kept := (kept_of_opened hopen).performAll horderly
  refine ⟨?_, fun id more hmore hnew => hkept.after_delete hmore hnew, ?_⟩
  · intro id hid
    obtain ⟨e, he, rfl⟩ := List.mem_map.1 hid
    exact hkept.owned e.1 e.2 (Dictionary.get?_of_mem he)
  · intro id more hmore later
    cases hvalue : later.values.get? id with
    | some value =>
      obtain ⟨before, action, after, hsplit, hassigns⟩ := hkept.after_create hmore hvalue
      exact .inl ⟨value, before, action, after, rfl, hsplit, hassigns⟩
    | none =>
      refine .inr ⟨rfl, ?_⟩
      rintro record rfl arguments event
      exact resolve_of_get?_eq_none hvalue arguments event

/-- The first variable has a value when it is deleted; the one that gets its name has none, although
the command is prepared again with the same reply at hand. -/
theorem no_orphans_sameName :
    let opened := oneQuestion "\x7b\x7b_target\x7d\x7d"
    let ask : Action := .prepare "c" none [.ok (some ["a"])]
    let h := opened.performAll [ask]
    let more := [.deleteVariable "id-1", .renameVariable "id-2" "target", ask]
    let later := h.performAll (.createVariable "id-2" :: more)
    ofSettings (.oneQuestion "\x7b\x7b_target\x7d\x7d") opened.environment = .ok opened ∧
      opened.Orderly [ask] ∧ h.values.keys = ["id-1"] ∧
      (∀ id ∈ h.values.keys, id ∈ h.registry.custom.map (·.id)) ∧
      (h.performAll [.deleteVariable "id-1", .editCommand "c" [.forgetPreactions], ask]).values.get?
        "id-1" = none ∧
      later.registry.custom = [⟨"id-2", "target", ""⟩] ∧
      ∀ arguments event, (CustomVariable.toVariable ⟨"id-2", "target", ""⟩).resolve arguments
        (later.context event) = .error (.noValue "_target") := by
  intro opened ask h more later
  have hopen : ofSettings (.oneQuestion "\x7b\x7b_target\x7d\x7d") opened.environment =
      .ok opened := ofSettings_oneQuestion _
  have horderly : opened.Orderly [ask] := ⟨trivial, trivial, trivial⟩
  have hagain : h.Orderly [.deleteVariable "id-1", .editCommand "c" [.forgetPreactions], ask] :=
    ⟨trivial, trivial, trivial, trivial, trivial, trivial, trivial⟩
  -- the id of the new variable is not in use, although the name will be that of the deleted
  -- one
  have hfresh : (Action.createVariable "id-2").IsFresh h := by decide +kernel
  have hmore : h.Orderly (.createVariable "id-2" :: more) :=
    ⟨hfresh, trivial, trivial, trivial, trivial, trivial, trivial, trivial, trivial⟩
  have hnone : later.values.get? "id-2" = none := by decide +kernel
  obtain ⟨hkeys, hdeleted, hcreated⟩ := no_orphans hopen horderly
  refine ⟨hopen, horderly, by decide +kernel, hkeys, ?_, by decide +kernel, ?_⟩
  · exact (hdeleted "id-1" _ hagain (by simp [ask])).1
  · rcases hcreated "id-2" more hmore with ⟨value, -, -, -, hvalue, -⟩ | ⟨-, hunresolved⟩
    · exact absurd (hnone.symm.trans hvalue) (by simp)
    · exact hunresolved ⟨"id-2", "target", ""⟩ rfl

end Host

end CommandTemplates
