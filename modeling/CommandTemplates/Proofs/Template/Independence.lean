/-
The targets of an expansion do not influence each other.

All targets share what is remembered of the values, a target that has failed is left
out by later passes, and variables of one name in several sets share their requests.
None of this shows: what an expansion reports of a target depends on the template of
the target, the sets, the defaults and the calls alone.

* `Expansion.Alike` — two expansions that differ in their other targets, and are as
  far as each other; `Alike.perform` is its step and `Alike.afterCalls` its run;
* `Plan.Stage.result?_eq` — the plan and the template determine what is reported;
* `Expansion.exists_stage` — the calls alone determine how far an expansion goes;
* `Expansion.result?_started`, `Expansion.result?_finished` — what that is after the
  first call and after both;
* `Expansion.exists_common_result` — two expansions with a target in common report
  the same of it after any calls.
-/
import CommandTemplates.Proofs.Template.Lifecycle

namespace CommandTemplates

/-! ### Where the calls leave an expansion -/

namespace Plan

variable {plan : Plan} {targets : List (String × String)} {x : Expansion}

/-- The first call takes an expansion as far as the first pass, if there is one. -/
theorem Stage.begun (h : plan.Stage targets 0 x) :
    plan.Stage targets (min 1 plan.sets.length) (x.begun plan.first) := by
  refine Stage.withPhase ?_ _
  rcases Nat.eq_zero_or_pos plan.sets.length with hlength | hlength
  · have hnone : x.sets[0]? = none := by
      rw [h.sets, List.getElem?_eq_none (by omega)]
    have hrun : x.runPass plan.first 0 = x := by simp only [Expansion.runPass, hnone]
    rw [hrun, hlength]
    exact h
  · have hone : min 1 plan.sets.length = 0 + 1 := by omega
    rw [hone]
    exact h.runPass hlength

/-- The second call takes it as far as the last. -/
theorem Stage.ended (h : plan.Stage targets (min 1 plan.sets.length) x) :
    plan.Stage targets plan.sets.length (x.ended plan.later 1) := by
  refine Stage.close ?_
  rw [Expansion.runFrom, h.sets]
  rcases Nat.eq_zero_or_pos plan.sets.length with hlength | hlength
  · rw [hlength] at h ⊢
    exact h
  · have hone : min 1 plan.sets.length = 1 := by omega
    rw [hone] at h
    have hlast := h.foldl_runPass Nat.one_pos (plan.sets.length - 1) (by omega)
    rwa [Nat.add_sub_cancel' hlength] at hlast

/-- What is reported of a template after `k` passes. -/
def resultAfter (plan : Plan) (template : String) (k : Nat) (finished : Bool) : TargetResult :=
  let errors := plan.errorsAfter template k
  let content := String.join ((plan.segmentsAfter template k).map (·.text))
  ⟨template, if errors = [] then some content else none, finished && decide (errors = []), errors⟩

/-- The plan and the template determine what is reported of a target. -/
theorem Stage.result?_eq {k : Nat} {finished : Bool} (h : plan.Stage targets k x)
    (hsound : x.TargetsSound (finished = true)) {key template : String}
    (hkey : (Dictionary.ofList targets).get? key = some template) :
    x.result? key = some (plan.resultAfter template k finished) := by
  obtain ⟨t, ht, rfl, hdescribed⟩ := h.exists_target hkey
  -- it has succeeded if the calls are over and it has no message, and the plan says which
  -- messages it has
  have hsucceeded : t.succeeded = (finished && decide (t.errors = [])) := by
    rw [Bool.eq_iff_iff, (hsound (key, t) (Dictionary.mem_of_get? ht)).succeeded]
    simp
  rw [Expansion.result?, ht, Option.map_some, Option.some.injEq, resultAfter, Target.result,
    hsucceeded, ← hdescribed.errors]
  by_cases hnone : t.errors = []
  · simp [Target.isFailed, Target.content, hnone, hdescribed.segments hnone]
  · simp [Target.isFailed, hnone]

end Plan

namespace Expansion

variable {sets : List VariableSet} {fallbacks : SortedMap Fallback}
  {targets targets' : List (String × String)} {x y : Expansion}

/-- Expansions of the same sets and defaults that are as far as each other, whatever their
targets. -/
inductive Alike (sets : List VariableSet) (fallbacks : SortedMap Fallback)
    (targets targets' : List (String × String)) (x y : Expansion) : Prop
  | created : x.phase = .created → y.phase = .created →
    (∀ first later, (Plan.mk sets fallbacks first later).Stage targets 0 x ∧
      (Plan.mk sets fallbacks first later).Stage targets' 0 y) →
    Alike sets fallbacks targets targets' x y
  | pending (first : Context) : x.phase = .passPending 1 → y.phase = .passPending 1 →
    (∀ later, (Plan.mk sets fallbacks first later).Stage targets (min 1 sets.length) x ∧
      (Plan.mk sets fallbacks first later).Stage targets' (min 1 sets.length) y) →
    Alike sets fallbacks targets targets' x y
  | closed (first later : Context) : (x.phase = .succeeded ∨ x.phase = .failed) →
    (y.phase = .succeeded ∨ y.phase = .failed) →
    (Plan.mk sets fallbacks first later).Stage targets sets.length x →
    (Plan.mk sets fallbacks first later).Stage targets' sets.length y →
    Alike sets fallbacks targets targets' x y

theorem alike_ofTargets (sets : List VariableSet) (fallbacks : SortedMap Fallback)
    (targets targets' : List (String × String)) :
    Alike sets fallbacks targets targets' (ofTargets sets fallbacks targets)
      (ofTargets sets fallbacks targets') := by
  refine .created (phase_ofTargets sets fallbacks targets) (phase_ofTargets sets fallbacks targets')
    ?_
  intro first later
  exact ⟨Plan.Stage.initial ⟨sets, fallbacks, first, later⟩ targets,
    Plan.Stage.initial ⟨sets, fallbacks, first, later⟩ targets'⟩

theorem perform_of_created {call : Call} (hphase : x.phase = .created) :
    (x.perform call).2 = if call.kind = .start then x.begun call.context else x := by
  cases hkind : call.kind with
  | start => simp [perform, hkind, start, hphase, begun]
  | finish => simp [perform, hkind, finish, hphase]

theorem perform_of_passPending {call : Call} {first : Nat} (hphase : x.phase = .passPending first) :
    (x.perform call).2 = if call.kind = .finish then x.ended call.context first else x := by
  cases hkind : call.kind with
  | start => simp [perform, hkind, start, hphase]
  | finish => simp [perform, hkind, finish, hphase, ended]

theorem perform_of_closed {call : Call} (hphase : x.phase = .succeeded ∨ x.phase = .failed) :
    (x.perform call).2 = x := by
  cases hkind : call.kind with
  | start => rcases hphase with hphase | hphase <;> simp [perform, hkind, start, hphase]
  | finish => rcases hphase with hphase | hphase <;> simp [perform, hkind, finish, hphase]

theorem phase_ended (x : Expansion) (ctx : Context) (first : Nat) :
    (x.ended ctx first).phase = .succeeded ∨ (x.ended ctx first).phase = .failed := by
  rw [ended, close]
  dsimp only
  split <;> simp

/-- After the last pass no call does anything. -/
theorem afterCalls_of_closed (hphase : x.phase = .succeeded ∨ x.phase = .failed)
    (calls : List Call) : x.afterCalls calls = x := by
  induction calls with
  | nil => rfl
  | cons call calls ih =>
    rw [afterCalls, List.foldl_cons, ← afterCalls, perform_of_closed hphase]
    exact ih

/-- Between the calls the first `finish` counts. -/
theorem afterCalls_of_passPending {first : Nat} (hphase : x.phase = .passPending first)
    (calls : List Call) :
    x.afterCalls calls =
      match calls.dropWhile (·.kind = .start) with
      | [] => x
      | call :: _ => x.ended call.context first := by
  induction calls with
  | nil => rfl
  | cons call calls ih =>
    rw [afterCalls, List.foldl_cons, ← afterCalls, perform_of_passPending hphase,
      List.dropWhile_cons]
    cases hkind : call.kind with
    | start => simpa using ih
    | finish => simp [afterCalls_of_closed (x.phase_ended call.context first)]

/-- Before all calls the first `start` counts. -/
theorem afterCalls_of_created (hphase : x.phase = .created) (calls : List Call) :
    x.afterCalls calls =
      match calls.dropWhile (·.kind = .finish) with
      | [] => x
      | call :: rest => (x.begun call.context).afterCalls rest := by
  induction calls with
  | nil => rfl
  | cons call calls ih =>
    rw [afterCalls, List.foldl_cons, ← afterCalls, perform_of_created hphase, List.dropWhile_cons]
    cases hkind : call.kind with
    | start => simp
    | finish => simpa using ih

/-- What is reported of a target after the first call. -/
theorem result?_started (plan : Plan) {targets : List (String × String)} {key template : String}
    (hkey : (Dictionary.ofList targets).get? key = some template) :
    ((ofTargets plan.sets plan.fallbacks targets).afterCalls [⟨.start, plan.first⟩]).result? key =
      some (plan.resultAfter template (min 1 plan.sets.length) false) := by
  have hover : Call.Over [⟨.start, plan.first⟩] ↔ false = true := by simp [Call.Over]
  have hlives := (lives_ofTargets plan.sets plan.fallbacks targets).afterCalls
    [⟨.start, plan.first⟩]
  have hsound := hlives.targets
  rw [List.nil_append, hover] at hsound
  refine Plan.Stage.result?_eq ?_ hsound hkey
  rw [afterCalls, List.foldl_cons, List.foldl_nil,
    perform_of_created (phase_ofTargets plan.sets plan.fallbacks targets), if_pos rfl]
  exact (Plan.Stage.initial plan targets).begun

/-- What is reported of a target after both calls. -/
theorem result?_finished (plan : Plan) {targets : List (String × String)} {key template : String}
    (hkey : (Dictionary.ofList targets).get? key = some template) :
    ((ofTargets plan.sets plan.fallbacks targets).afterCalls
      [⟨.start, plan.first⟩, ⟨.finish, plan.later⟩]).result? key =
      some (plan.resultAfter template plan.sets.length true) := by
  have hover : Call.Over [⟨.start, plan.first⟩, ⟨.finish, plan.later⟩] ↔ true = true := by
    simp [Call.Over]
  have hlives := (lives_ofTargets plan.sets plan.fallbacks targets).afterCalls
    [⟨.start, plan.first⟩, ⟨.finish, plan.later⟩]
  have hsound := hlives.targets
  rw [List.nil_append, hover] at hsound
  refine Plan.Stage.result?_eq ?_ hsound hkey
  rw [afterCalls, List.foldl_cons, List.foldl_cons, List.foldl_nil,
    perform_of_created (phase_ofTargets plan.sets plan.fallbacks targets), if_pos rfl,
    perform_of_passPending (show (begun _ _).phase = .passPending 1 from rfl), if_pos rfl]
  exact (Plan.Stage.initial plan targets).begun.ended

/-- The same call takes both expansions as far as each other again. -/
theorem Alike.perform (h : Alike sets fallbacks targets targets' x y) (call : Call) :
    Alike sets fallbacks targets targets' (x.perform call).2 (y.perform call).2 := by
  cases h with
  | created hx hy hstage =>
    rw [perform_of_created hx, perform_of_created hy]
    split
    · refine .pending call.context rfl rfl ?_
      intro later
      obtain ⟨hstagex, hstagey⟩ := hstage call.context later
      exact ⟨hstagex.begun, hstagey.begun⟩
    · exact .created hx hy hstage
  | pending first hx hy hstage =>
    rw [perform_of_passPending hx, perform_of_passPending hy]
    split
    · obtain ⟨hstagex, hstagey⟩ := hstage call.context
      exact .closed first call.context (x.phase_ended _ _) (y.phase_ended _ _) hstagex.ended
        hstagey.ended
    · exact .pending first hx hy hstage
  | closed first later hx hy hstagex hstagey =>
    rw [perform_of_closed hx, perform_of_closed hy]
    exact .closed first later hx hy hstagex hstagey

theorem Alike.afterCalls (h : Alike sets fallbacks targets targets' x y) (calls : List Call) :
    Alike sets fallbacks targets targets' (x.afterCalls calls) (y.afterCalls calls) := by
  induction calls generalizing x y with
  | nil => exact h
  | cons call calls ih => exact ih (h.perform call)

instance : Nonempty Context := ⟨{ environment := { root := ⟨"/"⟩, now := ⟨0, 0, 0⟩ } }⟩

/-- How far some calls take an expansion, and the contexts of its passes, depend on nothing but the
calls and the number of sets. -/
theorem exists_stage (calls : List Call) (n : Nat) :
    ∃ first later k, ∀ sets fallbacks targets, sets.length = n →
      (Plan.mk sets fallbacks first later).Stage targets k
        ((ofTargets sets fallbacks targets).afterCalls calls) := by
  obtain ⟨ctx⟩ : Nonempty Context := inferInstance
  -- the calls that count are the first `start` and the first `finish` behind it
  cases hstart : calls.dropWhile (·.kind = .finish) with
  | nil =>
    refine ⟨ctx, ctx, 0, ?_⟩
    intro sets fallbacks targets _
    rw [afterCalls_of_created (phase_ofTargets sets fallbacks targets), hstart]
    exact Plan.Stage.initial ⟨sets, fallbacks, ctx, ctx⟩ targets
  | cons call rest =>
    have hphase : ∀ x : Expansion, (x.begun call.context).phase = .passPending 1 := fun _ => rfl
    cases hfinish : rest.dropWhile (·.kind = .start) with
    | nil =>
      refine ⟨call.context, ctx, min 1 n, ?_⟩
      rintro sets fallbacks targets rfl
      rw [afterCalls_of_created (phase_ofTargets sets fallbacks targets), hstart]
      dsimp only
      rw [afterCalls_of_passPending (hphase _), hfinish]
      exact (Plan.Stage.initial ⟨sets, fallbacks, call.context, ctx⟩ targets).begun
    | cons call' _ =>
      refine ⟨call.context, call'.context, n, ?_⟩
      rintro sets fallbacks targets rfl
      rw [afterCalls_of_created (phase_ofTargets sets fallbacks targets), hstart]
      dsimp only
      rw [afterCalls_of_passPending (hphase _), hfinish]
      exact (Plan.Stage.initial ⟨sets, fallbacks, call.context, call'.context⟩ targets).begun.ended

/-- Contexts that are still to come do not matter. -/
theorem Alike.exists_stages (h : Alike sets fallbacks targets targets' x y) :
    ∃ plan k, Plan.Stage plan targets k x ∧ Plan.Stage plan targets' k y := by
  obtain ⟨ctx⟩ : Nonempty Context := inferInstance
  cases h with
  | created _ _ hstage => exact ⟨_, _, hstage ctx ctx⟩
  | pending first _ _ hstage => exact ⟨_, _, hstage ctx⟩
  | closed first later _ _ hstagex hstagey => exact ⟨_, _, hstagex, hstagey⟩

/-- Two expansions of the same sets and defaults that have a target in common, and differ in the
number, the order and the templates of their other targets, report the same of it after any calls.
Each call has a context of its own, so values may change before, between and after the passes. -/
theorem exists_common_result (sets : List VariableSet) (fallbacks : SortedMap Fallback)
    {targets targets' : List (String × String)} {key template : String}
    (hdistinct : (targets.map Prod.fst).Nodup) (hdistinct' : (targets'.map Prod.fst).Nodup)
    (hmem : (key, template) ∈ targets) (hmem' : (key, template) ∈ targets') (calls : List Call) :
    ∃ r, ((ofTargets sets fallbacks targets).afterCalls calls).result? key = some r ∧
      ((ofTargets sets fallbacks targets').afterCalls calls).result? key = some r ∧
      r.template = template := by
  have halike := (alike_ofTargets sets fallbacks targets targets').afterCalls calls
  obtain ⟨plan, k, hstage, hstage'⟩ := halike.exists_stages
  have hlives := (lives_ofTargets sets fallbacks targets).afterCalls calls
  have hlives' := (lives_ofTargets sets fallbacks targets').afterCalls calls
  -- how far the calls go is the same for both, so the targets have succeeded together
  let finished : Bool := decide (Call.Over ([] ++ calls))
  have hover : Call.Over ([] ++ calls) ↔ finished = true := (decide_eq_true_iff).symm
  have hsound := hlives.targets
  have hsound' := hlives'.targets
  rw [hover] at hsound hsound'
  refine ⟨plan.resultAfter template k finished, ?_, ?_, rfl⟩
  · exact hstage.result?_eq hsound (Dictionary.get?_ofList_of_mem hdistinct hmem)
  · exact hstage'.result?_eq hsound' (Dictionary.get?_ofList_of_mem hdistinct' hmem')

theorem exists_common_result_commonName :
    let template := "\x7b\x7ba\x7d\x7d\x7b\x7b_o\x7d\x7d\x7b\x7bb\x7d\x7d"
    let targets := [("t", template)]
    let targets' := [("u", "\x7b\x7bc\x7d\x7d\x7b\x7bh\x7d\x7d"), ("t", template),
      ("v", "\x7b\x7bb\x7d\x7d")]
    let calls := [⟨.finish, Plan.commonName.first⟩, ⟨.start, Plan.commonName.first⟩,
      ⟨.start, Plan.commonName.later⟩, ⟨.finish, Plan.commonName.later⟩]
    (targets.map Prod.fst).Nodup ∧ (targets'.map Prod.fst).Nodup ∧
      ("t", template) ∈ targets ∧ ("t", template) ∈ targets' ∧
      (∃ r, ((ofTargets Plan.commonName.sets .empty targets).afterCalls calls).result? "t" =
          some r ∧
        ((ofTargets Plan.commonName.sets .empty targets').afterCalls calls).result? "t" = some r ∧
        r.template = template) ∧
      ((ofTargets Plan.commonName.sets .empty targets').afterCalls calls).result? "t" =
        some ⟨template, some "\x7b\x7bb\x7d\x7dVB", true, []⟩ := by
  intro template targets targets' calls
  have hdistinct : (targets.map Prod.fst).Nodup := by decide
  have hdistinct' : (targets'.map Prod.fst).Nodup := by decide
  have hmem : ("t", template) ∈ targets := by decide
  have hmem' : ("t", template) ∈ targets' := by decide
  refine ⟨hdistinct, hdistinct', hmem, hmem', ?_, by decide +kernel⟩
  exact exists_common_result Plan.commonName.sets .empty hdistinct hdistinct' hmem hmem' calls

end Expansion

end CommandTemplates
