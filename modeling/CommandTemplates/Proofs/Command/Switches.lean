/-
Switching events on and off keeps what users have configured for them.

The entry of an event is created, changed or deleted as its content asks for.  All
that an entry contributes to this are its further settings (`switched`), and these
stay the same: hence of several switches only the last one counts, and after any
sequence of switches each entry is what the last one of its kind makes of the entry at
the beginning.

* `extrasOf_switched`, `switched_switched` — a switch loses no setting, and a later one
  overrides it;
* `Command.eventConfig?_apply`, `Command.eventConfig?_switch` — the entries after one
  switch and after many;
* `Command.switch_keeps_settings` — which events are enabled, which settings and entries
  are left, what does not change at all, and in which order enabled events are listed.
-/
import CommandTemplates.Command
import Mathlib.Data.List.Nodup

namespace CommandTemplates

theorem SortedMap.isEmpty_iff {α : Type} {m : SortedMap α} : m.isEmpty = true ↔ m = .empty := by
  obtain ⟨entries, ascending⟩ := m
  simp [SortedMap.isEmpty, SortedMap.empty]

theorem EventKind.code_inj {kind kind' : EventKind} : kind.code = kind'.code ↔ kind = kind' := by
  refine ⟨fun h => ?_, congrArg code⟩
  have hsame : ofCode? kind.code = ofCode? kind'.code := congrArg ofCode? h
  rwa [ofCode?_code, ofCode?_code, Option.some_inj] at hsame

theorem EventKind.nodup_all : all.Nodup := by decide

/-! ### Entries -/

namespace EventConfig

/-- Whether there is an entry of an enabled event. -/
def isEnabled (entry : Option EventConfig) : Bool := (entry.map (·.enabled)).getD false

/-- The further settings of an entry; none if there is no entry. -/
def extrasOf (entry : Option EventConfig) : SortedMap Value :=
  (entry.map (·.extras)).getD .empty

/-- The entry after its event was switched on or off.  An event that is off has an entry for its
further settings only. -/
def switched (on : Bool) (entry : Option EventConfig) : Option EventConfig :=
  if on || !(extrasOf entry).isEmpty then some { enabled := on, extras := extrasOf entry } else none

variable {on : Bool} {entry : Option EventConfig}

theorem isEnabled_switched : isEnabled (switched on entry) = on := by
  rw [switched]
  split
  · rfl
  · next hnone => cases on <;> simp_all [isEnabled]

/-- An entry that is deleted has no settings that could be lost. -/
theorem extrasOf_switched : extrasOf (switched on entry) = extrasOf entry := by
  rw [switched]
  split
  · rfl
  · next hnone =>
    have hempty : (extrasOf entry).isEmpty = true := by simp_all
    exact (SortedMap.isEmpty_iff.1 hempty).symm

theorem switched_switched {on' : Bool} : switched on' (switched on entry) = switched on' entry := by
  rw [switched, extrasOf_switched, ← switched]

theorem switched_false_eq_none (h : (extrasOf entry).isEmpty = true) :
    switched false entry = none := by
  simp [switched, h]

theorem ne_none_of_extrasOf (h : (extrasOf entry).isEmpty = false) : entry ≠ none := by
  rintro rfl
  contradiction

end EventConfig

/-! ### Switches -/

/-- A call that switches events of a kind on or off for a command. -/
structure EventSwitch where
  kind : EventKind
  on : Bool
  deriving DecidableEq, Repr

namespace EventSwitch

/-- Makes the call. -/
def apply (call : EventSwitch) (c : Command) : Command :=
  if call.on then c.enableEvent call.kind else c.disableEvent call.kind

/-- The last of some calls for a kind. -/
def lastFor? (kind : EventKind) (calls : List EventSwitch) : Option EventSwitch :=
  (calls.filter fun call => call.kind = kind).getLast?

theorem lastFor?_cons {kind : EventKind} {call : EventSwitch} {rest : List EventSwitch} :
    lastFor? kind (call :: rest) =
      (lastFor? kind rest).or (if call.kind = kind then some call else none) := by
  by_cases h : call.kind = kind
  · cases hrest : (rest.filter fun call => call.kind = kind).getLast? <;>
      simp [lastFor?, h, hrest, List.getLast?_cons]
  · simp [lastFor?, h]

theorem lastFor?_eq_none_iff {kind : EventKind} {calls : List EventSwitch} :
    lastFor? kind calls = none ↔ ∀ call ∈ calls, call.kind ≠ kind := by
  simp [lastFor?]

end EventSwitch

namespace Command

open EventConfig EventSwitch

variable {c : Command} {calls : List EventSwitch} {kind : EventKind} {code : String}

/-- The entry for an event, by its code. -/
def eventConfig? (c : Command) (code : String) : Option EventConfig := c.config.events.get? code

/-- The command after some calls, one after the other. -/
def switch (c : Command) (calls : List EventSwitch) : Command :=
  calls.foldl (fun c call => call.apply c) c

theorem switch_cons {call : EventSwitch} {rest : List EventSwitch} :
    c.switch (call :: rest) = (call.apply c).switch rest := rfl

/-! ### One call -/

theorem eventConfig?_enableEvent :
    (c.enableEvent kind).eventConfig? code =
      if kind.code = code then switched true (c.eventConfig? code) else c.eventConfig? code := by
  rw [eventConfig?, enableEvent, SortedMap.get?_insert]
  split
  · next hcode =>
    subst hcode
    cases hentry : c.config.events.get? kind.code <;>
      simp [eventConfig?, switched, extrasOf, hentry]
  · rfl

theorem eventConfig?_disableEvent :
    (c.disableEvent kind).eventConfig? code =
      if kind.code = code then switched false (c.eventConfig? code) else c.eventConfig? code := by
  by_cases hcode : kind.code = code
  · subst hcode
    rw [if_pos rfl, disableEvent]
    -- without an entry nothing is done, as the event is off; an entry goes unless it has
    -- further settings
    cases hentry : c.config.events.get? kind.code with
    | none => simp [eventConfig?, switched, extrasOf, hentry, SortedMap.isEmpty_iff]
    | some event =>
      cases hextras : event.extras.isEmpty <;>
        simp [eventConfig?, switched, extrasOf, hentry, hextras, SortedMap.get?_insert,
          SortedMap.get?_erase]
  · rw [if_neg hcode, disableEvent]
    cases hentry : c.config.events.get? kind.code with
    | none => rfl
    | some event =>
      cases hextras : event.extras.isEmpty <;>
        simp [eventConfig?, hextras, hcode, SortedMap.get?_insert, SortedMap.get?_erase]

theorem eventConfig?_apply {call : EventSwitch} :
    (call.apply c).eventConfig? code =
      if call.kind.code = code then switched call.on (c.eventConfig? code)
      else c.eventConfig? code := by
  obtain ⟨kind, _ | _⟩ := call
  · exact eventConfig?_disableEvent
  · exact eventConfig?_enableEvent

theorem apply_eq (call : EventSwitch) (c : Command) :
    ∃ events, call.apply c = { c with config := { c.config with events } } := by
  obtain ⟨kind, _ | _⟩ := call
  · simp only [apply, disableEvent]
    cases c.config.events.get? kind.code with
    | none => exact ⟨c.config.events, rfl⟩
    | some event => exact ⟨_, rfl⟩
  · exact ⟨_, rfl⟩

/-! ### Many calls -/

/-- The entry of an event is what the last call for it makes of the entry at the beginning. -/
theorem eventConfig?_switch :
    (c.switch calls).eventConfig? kind.code =
      match lastFor? kind calls with
      | some last => switched last.on (c.eventConfig? kind.code)
      | none => c.eventConfig? kind.code := by
  induction calls generalizing c with
  | nil => rfl
  | cons call rest ih =>
    rw [switch_cons, ih, eventConfig?_apply, lastFor?_cons]
    by_cases hkind : call.kind = kind
    · rw [if_pos (congrArg EventKind.code hkind), if_pos hkind]
      -- this call only counts if no later one is for its kind
      cases lastFor? kind rest with
      | some last => exact switched_switched
      | none => rfl
    · rw [if_neg (mt EventKind.code_inj.1 hkind), if_neg hkind, Option.or_none]

theorem extrasOf_eventConfig?_switch :
    extrasOf ((c.switch calls).eventConfig? code) = extrasOf (c.eventConfig? code) := by
  induction calls generalizing c with
  | nil => rfl
  | cons call rest ih =>
    rw [switch_cons, ih, eventConfig?_apply]
    split
    · exact extrasOf_switched
    · rfl

theorem eventConfig?_switch_of_forall_ne (h : ∀ call ∈ calls, call.kind.code ≠ code) :
    (c.switch calls).eventConfig? code = c.eventConfig? code := by
  induction calls generalizing c with
  | nil => rfl
  | cons call rest ih =>
    obtain ⟨hcall, hrest⟩ := List.forall_mem_cons.1 h
    rw [switch_cons, ih hrest, eventConfig?_apply, if_neg hcall]

theorem switch_eq (c : Command) (calls : List EventSwitch) :
    ∃ events, c.switch calls = { c with config := { c.config with events } } := by
  induction calls generalizing c with
  | nil => exact ⟨c.config.events, rfl⟩
  | cons call rest ih =>
    obtain ⟨events, hcall⟩ := apply_eq call c
    obtain ⟨events', hrest⟩ := ih (call.apply c)
    exact ⟨events', by rw [switch_cons, hrest, hcall]⟩

theorem isEventEnabled_switch :
    (c.switch calls).isEventEnabled kind =
      ((lastFor? kind calls).map (·.on)).getD (c.isEventEnabled kind) := by
  have hentry : ∀ c : Command, c.isEventEnabled kind = isEnabled (c.eventConfig? kind.code) :=
    fun _ => rfl
  rw [hentry, hentry, eventConfig?_switch]
  cases lastFor? kind calls with
  | some last => exact isEnabled_switched
  | none => rfl

/-- The entry of an event that was switched off last is not left without settings. -/
theorem eventConfig?_switch_eq_none {call : EventSwitch} (hcall : call ∈ calls)
    (hoff : (c.switch calls).isEventEnabled call.kind = false)
    (hextras : (extrasOf (c.eventConfig? call.kind.code)).isEmpty = true) :
    (c.switch calls).eventConfig? call.kind.code = none := by
  obtain ⟨last, hlast⟩ : ∃ last, lastFor? call.kind calls = some last :=
    Option.ne_none_iff_exists'.1 fun hnone => lastFor?_eq_none_iff.1 hnone call hcall rfl
  -- some call is for the kind, so the last of them has switched it off
  have hlastOff : last.on = false := by
    rwa [isEventEnabled_switch, hlast] at hoff
  rw [eventConfig?_switch, hlast]
  simp only [hlastOff]
  exact switched_false_eq_none hextras

theorem mem_enabledEvents : kind ∈ c.enabledEvents ↔ c.isEventEnabled kind = true := by
  simp [enabledEvents, EventKind.mem_all]

/-- After any sequence of calls: an event is enabled if the last call for it switched it on, or if
there was none and it was enabled before.  Further settings are those of before, also those of
events that have no entry; an entry with further settings is still there, and an event that was
switched and is off has no other entry.  Entries of other events and everything else are unchanged.
Enabled events are listed once each in the order of all events. -/
theorem switch_keeps_settings (c : Command) (calls : List EventSwitch) :
    (∀ kind, (c.switch calls).isEventEnabled kind =
        ((lastFor? kind calls).map (·.on)).getD (c.isEventEnabled kind)) ∧
      (∀ code, extrasOf ((c.switch calls).eventConfig? code) = extrasOf (c.eventConfig? code)) ∧
      (∀ code, (extrasOf (c.eventConfig? code)).isEmpty = false →
        (c.switch calls).eventConfig? code ≠ none) ∧
      (∀ call ∈ calls, (c.switch calls).isEventEnabled call.kind = false →
        (extrasOf (c.eventConfig? call.kind.code)).isEmpty = true →
        (c.switch calls).eventConfig? call.kind.code = none) ∧
      (∀ code, (∀ call ∈ calls, call.kind.code ≠ code) →
        (c.switch calls).eventConfig? code = c.eventConfig? code) ∧
      (∃ events, c.switch calls = { c with config := { c.config with events } }) ∧
      (∀ kind, kind ∈ (c.switch calls).enabledEvents ↔
        (c.switch calls).isEventEnabled kind = true) ∧
      (c.switch calls).enabledEvents.Nodup ∧
      (c.switch calls).enabledEvents.Sublist EventKind.all := by
  refine ⟨fun _ => isEventEnabled_switch, fun _ => extrasOf_eventConfig?_switch,
    fun code hextras => ?_, fun call hcall => eventConfig?_switch_eq_none hcall,
    fun _ => eventConfig?_switch_of_forall_ne, c.switch_eq calls, fun _ => mem_enabledEvents, ?_,
    List.filter_sublist⟩
  · refine ne_none_of_extrasOf ?_
    rwa [extrasOf_eventConfig?_switch]
  · exact EventKind.nodup_all.filter _

end Command

end CommandTemplates
