/-
The life of an expansion, whatever calls are made and in whatever order.

How far an expansion has come can be told from the calls made so far: the first
`start` begins it (`Call.Begun`), and the first `finish` behind that ends it
(`Call.Over`).  Every other call is refused and changes nothing.

* `Expansion.Performs` — what a call answers and what it leaves, by cases;
* `Expansion.Lives` — the invariant that ties an expansion to the calls so far, with
  `Lives.perform` as its step and `Lives.afterCalls` as its run;
* `Expansion.Keeps` — the messages of a target that has any stay as they are;
* `Expansion.lifecycle` — the phases, the answers and what is shown of a target,
  after any calls.
-/
import CommandTemplates.Proofs.Template.Calls

namespace CommandTemplates

/-- The two calls of an expansion. -/
inductive CallKind where
  | start
  | finish
  deriving DecidableEq, Repr

/-- A call, and the context that it is made in. -/
structure Call where
  kind : CallKind
  context : Context

namespace Call

/-- Whether one of the calls has begun the first pass. -/
def Begun (calls : List Call) : Prop := .start ∈ calls.map (·.kind)

/-- Whether the other passes were asked for after the first. -/
def Over (calls : List Call) : Prop := [.start, .finish].Sublist (calls.map (·.kind))

instance (calls : List Call) : Decidable (Begun calls) :=
  inferInstanceAs (Decidable (CallKind.start ∈ calls.map (·.kind)))

instance (calls : List Call) : Decidable (Over calls) :=
  inferInstanceAs (Decidable ([CallKind.start, .finish].Sublist (calls.map (·.kind))))

variable {calls : List Call} {call : Call}

theorem Over.begun (h : Over calls) : Begun calls := h.subset List.mem_cons_self

theorem not_begun_nil : ¬ Begun [] := by simp [Begun]

theorem not_over_nil : ¬ Over [] := fun h => not_begun_nil h.begun

theorem begun_append : Begun (calls ++ [call]) ↔ Begun calls ∨ call.kind = .start := by
  simp [Begun, eq_comm]

/-- A call ends an expansion if it is a `finish` and the expansion has begun before. -/
theorem over_append :
    Over (calls ++ [call]) ↔ Over calls ∨ (Begun calls ∧ call.kind = .finish) := by
  rw [Over, Over, Begun, List.map_append, List.map_singleton]
  constructor
  · intro h
    obtain ⟨first, last, hsplit, hfirst, hlast⟩ := List.sublist_append_iff.1 h
    rcases List.sublist_singleton.1 hlast with rfl | rfl
    · rw [List.append_nil] at hsplit
      exact .inl (hsplit ▸ hfirst)
    · have hpair : [CallKind.start] ++ [.finish] = first ++ [call.kind] := hsplit
      obtain ⟨rfl, hkind⟩ := List.append_singleton_inj.1 hpair
      exact .inr ⟨List.singleton_sublist.1 hfirst, hkind.symm⟩
  · rintro (h | ⟨hbegun, hkind⟩)
    · exact h.trans (List.sublist_append_left _ _)
    · rw [hkind]
      exact (List.singleton_sublist.2 hbegun).append (List.Sublist.refl [CallKind.finish])

end Call

namespace Expansion

variable {x y z : Expansion} {calls : List Call} {call : Call}

/-! ### Calls -/

/-- What a call answers, and the expansion after it.  A call that is refused leaves the expansion
as it was. -/
def perform (x : Expansion) (call : Call) : Except OrderError Bool × Expansion :=
  let called :=
    match call.kind with
    | .start => x.start call.context
    | .finish => x.finish call.context
  match called with
  | .ok (ok, y) => (.ok ok, y)
  | .error e => (.error e, x)

/-- The expansion after some calls. -/
def afterCalls (x : Expansion) (calls : List Call) : Expansion :=
  calls.foldl (fun x call => (x.perform call).2) x

/-- The expansion after pass 0. -/
def begun (x : Expansion) (ctx : Context) : Expansion :=
  { x.runPass ctx 0 with phase := .passPending 1 }

/-- The expansion after all passes from `first` on. -/
def ended (x : Expansion) (ctx : Context) (first : Nat) : Expansion := (x.runFrom ctx first).close

/-- What a call answers and what it leaves. -/
inductive Performs (x : Expansion) (call : Call) : Except OrderError Bool → Expansion → Prop
  | started : call.kind = .start → x.phase = .created →
    Performs x call (.ok !(x.begun call.context).anyFailed) (x.begun call.context)
  | finished {first : Nat} : call.kind = .finish → x.phase = .passPending first →
    Performs x call (.ok !(x.ended call.context first).anyFailed) (x.ended call.context first)
  | alreadyStarted : call.kind = .start → x.phase ≠ .created →
    Performs x call (.error .alreadyStarted) x
  | notStarted : call.kind = .finish → x.phase = .created →
    Performs x call (.error .notStarted) x
  | alreadyFinished : call.kind = .finish → x.phase = .succeeded ∨ x.phase = .failed →
    Performs x call (.error .alreadyFinished) x

theorem performs_perform (x : Expansion) (call : Call) :
    x.Performs call (x.perform call).1 (x.perform call).2 := by
  cases hkind : call.kind with
  | start =>
    rw [perform]
    simp only [hkind, start]
    cases hphase : x.phase with
    | created => exact .started hkind hphase
    | passPending first => exact .alreadyStarted hkind (by simp [hphase])
    | succeeded => exact .alreadyStarted hkind (by simp [hphase])
    | failed => exact .alreadyStarted hkind (by simp [hphase])
  | finish =>
    rw [perform]
    simp only [hkind, finish]
    cases hphase : x.phase with
    | created => exact .notStarted hkind hphase
    | passPending first => exact .finished hkind hphase
    | succeeded => exact .alreadyFinished hkind (.inl hphase)
    | failed => exact .alreadyFinished hkind (.inr hphase)

theorem anyFailed_eq_false_iff :
    x.anyFailed = false ↔ ∀ key r, x.result? key = some r → r.errors = [] := by
  rw [anyFailed, List.any_eq_false]
  constructor
  · intro h key r hr
    obtain ⟨t, ht, rfl⟩ := Option.map_eq_some_iff.1 hr
    have hfailed := h t (List.mem_map_of_mem (Dictionary.mem_of_get? ht))
    show t.errors = []
    simpa [Target.isFailed] using hfailed
  · intro h t ht
    obtain ⟨e, he, rfl⟩ := List.mem_map.1 ht
    have hresult : x.result? e.1 = some e.2.result := by
      rw [result?, Dictionary.get?_of_mem he]
      rfl
    have hnone : e.2.errors = [] := h e.1 e.2.result hresult
    simp [Target.isFailed, hnone]

end Expansion

/-! ### Targets -/

namespace Target

/-- A target without repeated messages, which has succeeded if all passes are over and there is no
message. -/
structure Sound (finished : Prop) (t : Target) : Prop where
  nodup : t.errors.Nodup
  succeeded : t.succeeded = true ↔ finished ∧ t.errors = []

variable {t : Target}

theorem sound_ofTemplate (template : String) : (ofTemplate template).Sound False :=
  ⟨List.nodup_nil, by simp [ofTemplate]⟩

theorem nodup_foldl_report {messages errors : List String} (h : errors.Nodup) :
    (messages.foldl report errors).Nodup := by
  induction messages generalizing errors with
  | nil => exact h
  | cons message messages ih =>
    refine ih ?_
    rw [report]
    split
    · exact h
    · next hnew =>
      have hlast : [message].Nodup := by simp
      refine List.nodup_append.2 ⟨h, hlast, ?_⟩
      intro a ha b hb hab
      rw [hab, List.mem_singleton.1 hb] at ha
      exact hnew ha

theorem run_of_errors (pass : Pass) (memo : Memo) (h : t.errors ≠ []) :
    t.run pass memo = (t, memo) := by
  have hfailed : t.isFailed = true := by simpa [isFailed] using h
  rw [run, if_pos hfailed]

theorem Sound.run (h : t.Sound False) (pass : Pass) (memo : Memo) :
    (t.run pass memo).1.Sound False := by
  have hnot : t.succeeded = false := by simpa using h.succeeded
  unfold Target.run
  split
  · exact h
  · exact ⟨nodup_foldl_report h.nodup, by simp [hnot]⟩

theorem Sound.close (h : t.Sound False) : t.close.Sound True :=
  ⟨h.nodup, by simp [Target.close, isFailed]⟩

end Target

namespace Expansion

variable {x y z : Expansion} {calls : List Call} {call : Call}

/-- An expansion whose targets are sound. -/
def TargetsSound (finished : Prop) (x : Expansion) : Prop :=
  ∀ e ∈ x.targets.entries, e.2.Sound finished

theorem targetsSound_ofTargets (sets : List VariableSet) (fallbacks : SortedMap Fallback)
    (targets : List (String × String)) : (ofTargets sets fallbacks targets).TargetsSound False := by
  have hadded : ∀ x : Expansion, x.TargetsSound False →
      (targets.foldl (fun x target => x.addTarget target.1 target.2) x).TargetsSound False := by
    induction targets with
    | nil => exact fun x h => h
    | cons target targets ih =>
      intro x h
      refine ih _ ?_
      intro e he
      rcases Dictionary.mem_of_mem_insertEntry he with rfl | he
      · exact Target.sound_ofTemplate target.2
      · exact h e he
  exact hadded _ (by simp [TargetsSound, Dictionary.empty])

theorem TargetsSound.runPass (h : x.TargetsSound False) (ctx : Context) (i : Nat) :
    (x.runPass ctx i).TargetsSound False := by
  unfold Expansion.runPass
  split
  · exact h
  · next available _ =>
    let pass : Pass := ⟨i, available, x.known, x.fallbacks, ctx⟩
    have hrun := Dictionary.forall_mem_passEntries (f := Target.run pass) (I := fun _ => True)
      (fun memo t _ ht => ⟨Target.Sound.run ht pass memo, trivial⟩) (s := x.memo) trivial h
    exact hrun.1

theorem TargetsSound.runFrom (h : x.TargetsSound False) (ctx : Context) (first : Nat) :
    (x.runFrom ctx first).TargetsSound False := by
  rw [Expansion.runFrom]
  generalize List.range' first (x.sets.length - first) = passes
  induction passes generalizing x with
  | nil => exact h
  | cons i passes ih => exact ih (h.runPass ctx i)

theorem TargetsSound.close (h : x.TargetsSound False) : x.close.TargetsSound True := by
  intro e he
  obtain ⟨earlier, hearlier, rfl⟩ := List.mem_map.1 he
  exact (h earlier hearlier).close

/-! ### The invariant -/

/-- An expansion as it can be after some calls. -/
structure Lives (calls : List Call) (x : Expansion) : Prop where
  created : ¬ Call.Begun calls → x.phase = .created
  pending : Call.Begun calls → ¬ Call.Over calls → x.phase = .passPending 1
  closed : Call.Over calls → x.phase = if x.anyFailed then .failed else .succeeded
  targets : x.TargetsSound (Call.Over calls)

theorem lives_ofTargets (sets : List VariableSet) (fallbacks : SortedMap Fallback)
    (targets : List (String × String)) : (ofTargets sets fallbacks targets).Lives [] := by
  have hover : Call.Over [] ↔ False := iff_of_false Call.not_over_nil id
  refine ⟨fun _ => phase_ofTargets sets fallbacks targets,
    fun h => absurd h Call.not_begun_nil, fun h => absurd h Call.not_over_nil, ?_⟩
  rw [hover]
  exact targetsSound_ofTargets sets fallbacks targets

theorem Lives.phase_eq_created_iff (h : x.Lives calls) :
    x.phase = .created ↔ ¬ Call.Begun calls := by
  refine ⟨?_, h.created⟩
  intro hphase hbegun
  by_cases hover : Call.Over calls
  · have hclosed := h.closed hover
    rw [hphase] at hclosed
    split at hclosed <;> simp at hclosed
  · simp [h.pending hbegun hover] at hphase

theorem Lives.phase_eq_passPending_iff (h : x.Lives calls) {first : Nat} :
    x.phase = .passPending first ↔ first = 1 ∧ Call.Begun calls ∧ ¬ Call.Over calls := by
  constructor
  · intro hphase
    have hbegun : Call.Begun calls := by
      by_contra hnot
      simp [h.created hnot] at hphase
    have hover : ¬ Call.Over calls := by
      intro hover
      have hclosed := h.closed hover
      rw [hphase] at hclosed
      split at hclosed <;> simp at hclosed
    rw [h.pending hbegun hover] at hphase
    exact ⟨(Phase.passPending.inj hphase).symm, hbegun, hover⟩
  · rintro ⟨rfl, hbegun, hover⟩
    exact h.pending hbegun hover

theorem Lives.phase_ended_iff (h : x.Lives calls) :
    (x.phase = .succeeded ∨ x.phase = .failed) ↔ Call.Over calls := by
  constructor
  · intro hphase
    by_contra hover
    by_cases hbegun : Call.Begun calls
    · simp [h.pending hbegun hover] at hphase
    · simp [h.created hbegun] at hphase
  · intro hover
    rw [h.closed hover]
    split <;> simp

theorem Lives.congr {more : List Call} (h : x.Lives calls)
    (hbegun : Call.Begun more ↔ Call.Begun calls) (hover : Call.Over more ↔ Call.Over calls) :
    x.Lives more := by
  refine ⟨?_, ?_, ?_, ?_⟩
  · rw [hbegun]
    exact h.created
  · rw [hbegun, hover]
    exact h.pending
  · rw [hover]
    exact h.closed
  · rw [hover]
    exact h.targets

/-- The first `start` begins an expansion. -/
theorem Lives.begun (h : x.Lives calls) (hphase : x.phase = .created) (hkind : call.kind = .start) :
    (x.begun call.context).Lives (calls ++ [call]) := by
  have hnot : ¬ Call.Begun calls := h.phase_eq_created_iff.1 hphase
  have hbegun : Call.Begun (calls ++ [call]) := Call.begun_append.2 (.inr hkind)
  have hover : ¬ Call.Over (calls ++ [call]) := by
    rw [Call.over_append]
    rintro (hover | ⟨hearlier, -⟩)
    · exact hnot hover.begun
    · exact hnot hearlier
  have htargets : x.TargetsSound False := by
    rw [← iff_false_intro fun hearlier : Call.Over calls => hnot hearlier.begun]
    exact h.targets
  refine ⟨fun hnone => absurd hbegun hnone, fun _ _ => rfl, fun hearlier => absurd hearlier hover,
    ?_⟩
  rw [iff_false_intro hover]
  exact htargets.runPass call.context 0

/-- The first `finish` behind a `start` ends it. -/
theorem Lives.ended (h : x.Lives calls) {first : Nat} (hphase : x.phase = .passPending first)
    (hkind : call.kind = .finish) : (x.ended call.context first).Lives (calls ++ [call]) := by
  obtain ⟨-, hbegun, hnot⟩ := h.phase_eq_passPending_iff.1 hphase
  have hover : Call.Over (calls ++ [call]) := Call.over_append.2 (.inr ⟨hbegun, hkind⟩)
  have htargets : x.TargetsSound False := by
    rw [← iff_false_intro hnot]
    exact h.targets
  -- closing adds no message, so the same targets have failed before it and after it
  have hfailed : (x.ended call.context first).anyFailed =
      (x.runFrom call.context first).anyFailed := by
    simp [Expansion.ended, close, anyFailed, Dictionary.values, Dictionary.mapValues, Target.close,
      Target.isFailed, Function.comp_def]
  refine ⟨fun hnone => absurd hover.begun hnone, fun _ hnone => absurd hover hnone, ?_, ?_⟩
  · intro _
    rw [hfailed]
    rfl
  · rw [iff_true_intro hover]
    exact (htargets.runFrom call.context first).close

/-- A call takes an expansion further if it is in order, and else leaves it where it is. -/
theorem Lives.perform (h : x.Lives calls) (call : Call) :
    (x.perform call).2.Lives (calls ++ [call]) := by
  generalize hanswer : (x.perform call).1 = answer
  generalize hleft : (x.perform call).2 = y
  have hperforms : x.Performs call answer y := hanswer ▸ hleft ▸ x.performs_perform call
  cases hperforms with
  | started hkind hphase => exact h.begun hphase hkind
  | finished hkind hphase => exact h.ended hphase hkind
  | alreadyStarted hkind hphase =>
    have hbegun : Call.Begun calls := by
      by_contra hnot
      exact hphase (h.created hnot)
    refine h.congr ?_ ?_
    · simp [Call.begun_append, hbegun]
    · simp [Call.over_append, hkind]
  | notStarted hkind hphase =>
    have hnot : ¬ Call.Begun calls := h.phase_eq_created_iff.1 hphase
    refine h.congr ?_ ?_
    · simp [Call.begun_append, hkind]
    · simp [Call.over_append, hnot]
  | alreadyFinished hkind hphase =>
    have hover : Call.Over calls := h.phase_ended_iff.1 hphase
    refine h.congr ?_ ?_
    · simp [Call.begun_append, hkind]
    · simp [Call.over_append, hover]

theorem Lives.afterCalls (h : x.Lives calls) (more : List Call) :
    (x.afterCalls more).Lives (calls ++ more) := by
  induction more generalizing x calls with
  | nil =>
    rw [List.append_nil]
    exact h
  | cons call more ih =>
    have hrest := ih (h.perform call)
    rw [List.append_assoc] at hrest
    exact hrest

/-! ### Messages stay -/

/-- Whether the targets of `x` that have messages have the same messages in `y`. -/
def Keeps (x y : Expansion) : Prop :=
  ∀ key t, x.targets.get? key = some t → t.errors ≠ [] →
    ∃ t', y.targets.get? key = some t' ∧ t'.errors = t.errors

theorem keeps_refl (x : Expansion) : x.Keeps x := fun _ t ht _ => ⟨t, ht, rfl⟩

theorem Keeps.trans (h : x.Keeps y) (h' : y.Keeps z) : x.Keeps z := by
  intro key t ht hsome
  obtain ⟨t', ht', herrors⟩ := h key t ht hsome
  obtain ⟨t'', ht'', herrors'⟩ := h' key t' ht' (herrors ▸ hsome)
  exact ⟨t'', ht'', herrors'.trans herrors⟩

/-- A pass leaves a target with messages alone. -/
theorem keeps_runPass (x : Expansion) (ctx : Context) (i : Nat) : x.Keeps (x.runPass ctx i) := by
  unfold runPass
  split
  · exact x.keeps_refl
  · next available _ =>
    intro key t ht hsome
    obtain ⟨memo, hget⟩ := x.targets.exists_get?_passValues
      (Target.run ⟨i, available, x.known, x.fallbacks, ctx⟩) x.memo key
    rw [ht, Option.map_some, Target.run_of_errors _ _ hsome] at hget
    exact ⟨t, hget, rfl⟩

theorem keeps_runFrom (x : Expansion) (ctx : Context) (first : Nat) :
    x.Keeps (x.runFrom ctx first) := by
  rw [runFrom]
  generalize List.range' first (x.sets.length - first) = passes
  induction passes generalizing x with
  | nil => exact x.keeps_refl
  | cons i passes ih => exact (x.keeps_runPass ctx i).trans (ih _)

theorem keeps_close (x : Expansion) : x.Keeps x.close := by
  intro key t ht _
  refine ⟨t.close, ?_, rfl⟩
  rw [close, Dictionary.get?_mapValues, ht]
  rfl

theorem keeps_perform (x : Expansion) (call : Call) : x.Keeps (x.perform call).2 := by
  generalize hanswer : (x.perform call).1 = answer
  generalize hleft : (x.perform call).2 = y
  have hperforms : x.Performs call answer y := hanswer ▸ hleft ▸ x.performs_perform call
  cases hperforms with
  | started => exact x.keeps_runPass call.context 0
  | finished => exact (x.keeps_runFrom call.context _).trans (keeps_close _)
  | alreadyStarted => exact x.keeps_refl
  | notStarted => exact x.keeps_refl
  | alreadyFinished => exact x.keeps_refl

theorem keeps_afterCalls (x : Expansion) (calls : List Call) : x.Keeps (x.afterCalls calls) := by
  induction calls generalizing x with
  | nil => exact x.keeps_refl
  | cons call calls ih => exact (x.keeps_perform call).trans (ih _)

/-! ### What calls answer, and what is shown -/

/-- The answer to a call after some others, and what it leaves: the first `start` and the first
`finish` behind it are accepted, and every other call is refused for its own reason and changes
nothing. -/
structure InOrder (before : List Call) (x : Expansion) (call : Call)
    (answer : Except OrderError Bool) (y : Expansion) : Prop where
  accepted : (∃ ok, answer = .ok ok) ↔
    (call.kind = .start ∧ ¬ Call.Begun before) ∨
      (call.kind = .finish ∧ Call.Begun before ∧ ¬ Call.Over before)
  alreadyStarted : answer = .error .alreadyStarted ↔ call.kind = .start ∧ Call.Begun before
  notStarted : answer = .error .notStarted ↔ call.kind = .finish ∧ ¬ Call.Begun before
  alreadyFinished : answer = .error .alreadyFinished ↔ call.kind = .finish ∧ Call.Over before
  unchanged : ∀ e, answer = .error e → y = x
  ok : ∀ ok, answer = .ok ok → (ok = true ↔ ∀ key r, y.result? key = some r → r.errors = [])

theorem Lives.inOrder (h : x.Lives calls) {answer : Except OrderError Bool}
    (hperforms : x.Performs call answer y) : InOrder calls x call answer y := by
  cases hperforms with
  | started hkind hphase =>
    have hnot : ¬ Call.Begun calls := h.phase_eq_created_iff.1 hphase
    have hover : ¬ Call.Over calls := fun hover => hnot hover.begun
    constructor <;> simp [hkind, hnot, hover, ← anyFailed_eq_false_iff]
  | finished hkind hphase =>
    obtain ⟨-, hbegun, hover⟩ := h.phase_eq_passPending_iff.1 hphase
    constructor <;> simp [hkind, hbegun, hover, ← anyFailed_eq_false_iff]
  | alreadyStarted hkind hphase =>
    have hbegun : Call.Begun calls := by
      by_contra hnot
      exact hphase (h.created hnot)
    constructor <;> simp [hkind, hbegun]
  | notStarted hkind hphase =>
    have hnot : ¬ Call.Begun calls := h.phase_eq_created_iff.1 hphase
    have hover : ¬ Call.Over calls := fun hover => hnot hover.begun
    constructor <;> simp [hkind, hnot, hover]
  | alreadyFinished hkind hphase =>
    have hover : Call.Over calls := h.phase_ended_iff.1 hphase
    constructor <;> simp [hkind, hover, hover.begun]

/-- What is shown of a target after some calls. -/
structure Shown (calls : List Call) (r : TargetResult) : Prop where
  content : r.content = none ↔ r.errors ≠ []
  nodup : r.errors.Nodup
  succeeded : r.succeeded = true ↔ Call.Over calls ∧ r.errors = []

theorem Lives.shown (h : x.Lives calls) {key : String} {r : TargetResult}
    (hr : x.result? key = some r) : Shown calls r := by
  obtain ⟨t, ht, rfl⟩ := Option.map_eq_some_iff.1 hr
  have hsound := h.targets (key, t) (Dictionary.mem_of_get? ht)
  refine ⟨?_, hsound.nodup, hsound.succeeded⟩
  simp [Target.result, Target.isFailed]

/-- After the last pass an expansion has succeeded if each of its targets has. -/
theorem Lives.anyFailed_eq_false_iff (h : x.Lives calls) (hover : Call.Over calls) :
    x.anyFailed = false ↔ ∀ key r, x.result? key = some r → r.succeeded = true := by
  rw [Expansion.anyFailed_eq_false_iff]
  refine forall_congr' fun key => forall_congr' fun r => forall_congr' fun hr => ?_
  rw [(h.shown hr).succeeded]
  simp [hover]

/-- Where an expansion stands after some calls. -/
structure Stands (calls : List Call) (x : Expansion) : Prop where
  created : x.phase = .created ↔ ¬ Call.Begun calls
  pending : ∀ first, x.phase = .passPending first ↔
    first = 1 ∧ Call.Begun calls ∧ ¬ Call.Over calls
  succeeded : x.phase = .succeeded ↔
    Call.Over calls ∧ ∀ key r, x.result? key = some r → r.succeeded = true
  failed : x.phase = .failed ↔
    Call.Over calls ∧ ¬ ∀ key r, x.result? key = some r → r.succeeded = true

theorem Lives.stands (h : x.Lives calls) : x.Stands calls := by
  refine ⟨h.phase_eq_created_iff, fun first => h.phase_eq_passPending_iff, ?_, ?_⟩
  · constructor
    · intro hphase
      have hover := h.phase_ended_iff.1 (.inl hphase)
      -- a failed target would have left the other phase
      have hclosed := h.closed hover
      rw [hphase] at hclosed
      refine ⟨hover, (h.anyFailed_eq_false_iff hover).1 ?_⟩
      rw [← Bool.not_eq_true]
      intro hfailed
      simp [hfailed] at hclosed
    · rintro ⟨hover, hall⟩
      rw [h.closed hover, (h.anyFailed_eq_false_iff hover).2 hall]
      rfl
  · constructor
    · intro hphase
      have hover := h.phase_ended_iff.1 (.inr hphase)
      have hclosed := h.closed hover
      rw [hphase] at hclosed
      refine ⟨hover, fun hall => ?_⟩
      simp [(h.anyFailed_eq_false_iff hover).2 hall] at hclosed
    · rintro ⟨hover, hnot⟩
      rw [h.closed hover, if_pos]
      rw [← Bool.not_eq_false]
      exact fun hnone => hnot ((h.anyFailed_eq_false_iff hover).1 hnone)

/-- After any calls, in and out of order: where the expansion stands, what the next call answers
and leaves, and what is shown of each target, now and after any more calls. -/
theorem lifecycle (sets : List VariableSet) (fallbacks : SortedMap Fallback)
    (targets : List (String × String)) (calls : List Call) :
    let x := (ofTargets sets fallbacks targets).afterCalls calls
    x.Stands calls ∧
      (∀ call, InOrder calls x call (x.perform call).1 (x.perform call).2) ∧
      (∀ key r, x.result? key = some r → Shown calls r) ∧
      ∀ key r, x.result? key = some r → r.errors ≠ [] → ∀ more,
        ∃ r', (x.afterCalls more).result? key = some r' ∧ r'.errors = r.errors := by
  intro x
  have hlives : x.Lives calls := (lives_ofTargets sets fallbacks targets).afterCalls calls
  refine ⟨hlives.stands, fun call => hlives.inOrder (x.performs_perform call),
    fun key r => hlives.shown, ?_⟩
  intro key r hr hsome more
  -- a target that has messages is left alone by every pass to come
  obtain ⟨t, ht, rfl⟩ := Option.map_eq_some_iff.1 hr
  obtain ⟨t', ht', herrors⟩ := x.keeps_afterCalls more key t ht hsome
  exact ⟨t'.result, by rw [result?, ht']; rfl, herrors⟩

end Expansion

end CommandTemplates
