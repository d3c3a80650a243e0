/-
What the two calls of an expansion answer.

`start` and `finish` say whether every target is without a message, and the messages
of an expansion are those of its targets, in the order in which they were added.
`Plan.messages` gives that list from the plan and the templates alone.

* `Plan.exists_start_messages`, `Plan.Report.exists_finish` — the answers and the
  messages after each call;
* `Plan.Report.content` — the text of a target without a message.
-/
import CommandTemplates.Proofs.Template.Substitution
import Mathlib.Data.List.Basic

namespace CommandTemplates

namespace Expansion

theorem keys_runPass (x : Expansion) (ctx : Context) (i : Nat) :
    (x.runPass ctx i).targets.keys = x.targets.keys := by
  unfold runPass
  split
  · rfl
  · exact Dictionary.keys_passValues _ _ _

theorem keys_runFrom (x : Expansion) (ctx : Context) (first : Nat) :
    (x.runFrom ctx first).targets.keys = x.targets.keys := by
  rw [runFrom]
  generalize List.range' first (x.sets.length - first) = passes
  induction passes generalizing x with
  | nil => rfl
  | cons i passes ih => rw [List.foldl_cons, ih, keys_runPass]

theorem start_eq_ok {x y : Expansion} {ctx : Context} {ok : Bool}
    (h : x.start ctx = .ok (ok, y)) : ok = !y.anyFailed ∧ y.targets.keys = x.targets.keys := by
  unfold start at h
  split at h
  · simp only [Except.ok.injEq, Prod.mk.injEq] at h
    obtain ⟨rfl, rfl⟩ := h
    exact ⟨rfl, x.keys_runPass ctx 0⟩
  · simp at h

theorem finish_eq_ok {x y : Expansion} {ctx : Context} {ok : Bool}
    (h : x.finish ctx = .ok (ok, y)) : ok = !y.anyFailed ∧ y.targets.keys = x.targets.keys := by
  unfold finish at h
  split at h
  · simp at h
  · simp at h
  · simp at h
  · next first _ =>
    simp only [Except.ok.injEq, Prod.mk.injEq] at h
    obtain ⟨rfl, rfl⟩ := h
    refine ⟨rfl, ?_⟩
    rw [close, Dictionary.keys_mapValues, keys_runFrom]

theorem anyFailed_eq (x : Expansion) : x.anyFailed = !decide (x.errors = []) := by
  have hiff : x.anyFailed = true ↔ x.errors ≠ [] := by
    simp [anyFailed, errors, Target.isFailed]
  by_cases h : x.errors = []
  · rw [decide_eq_true h, Bool.not_true, ← Bool.not_eq_true]
    exact fun hfailed => hiff.1 hfailed h
  · rw [decide_eq_false h, Bool.not_false]
    exact hiff.2 h

end Expansion

namespace Plan

variable {plan : Plan} {k : Nat} {targets : List (String × String)} {x : Expansion}

/-- The messages of an expansion after `k` passes. -/
def messages (plan : Plan) (targets : List (String × String)) (k : Nat) : List String :=
  (Dictionary.ofList targets).values.flatMap fun template => plan.errorsAfter template k

/-- An expansion that is where the plan has it after `k` passes, with its targets in the order in
which they were added. -/
structure Report (plan : Plan) (targets : List (String × String)) (k : Nat) (x : Expansion) :
    Prop extends plan.Stage targets k x where
  keys : x.targets.keys = (Dictionary.ofList targets).keys

theorem keys_expansion (plan : Plan) (targets : List (String × String)) :
    (plan.expansion targets).targets.keys = (Dictionary.ofList targets).keys := by
  have hkeys : ∀ (x : Expansion) (d : Dictionary String String), x.targets.keys = d.keys →
      (targets.foldl (fun x target => x.addTarget target.1 target.2) x).targets.keys =
        (targets.foldl (fun d target => d.insert target.1 target.2) d).keys := by
    induction targets with
    | nil => exact fun _ _ h => h
    | cons target targets ih =>
      intro x d h
      refine ih _ _ ?_
      show (x.targets.insert target.1 (.ofTemplate target.2)).keys = (d.insert _ _).keys
      rw [Dictionary.keys_insert, Dictionary.keys_insert, h]
  exact hkeys _ _ rfl

/-- The messages of an expansion are those that the plan has for its templates. -/
theorem Report.errors_eq (h : plan.Report targets k x) : x.errors = plan.messages targets k := by
  have htemplates : x.targets.values.map (·.template) = (Dictionary.ofList targets).values := by
    rw [Dictionary.values_eq_filterMap, Dictionary.values_eq_filterMap, h.keys,
      List.map_filterMap]
    congr 1
    funext key
    exact h.templates key
  have herrors : ∀ t ∈ x.targets.values, t.errors = plan.errorsAfter t.template k := by
    intro t ht
    obtain ⟨e, he, rfl⟩ := List.mem_map.1 ht
    exact (h.described e he).errors
  rw [messages, ← htemplates, List.flatMap_map, Expansion.errors]
  exact List.flatMap_congr herrors

theorem Report.of_answer {ok : Bool} (h : plan.Report targets k x) (hok : ok = !x.anyFailed) :
    ok = decide (plan.messages targets k = []) := by
  rw [hok, Expansion.anyFailed_eq, h.errors_eq, Bool.not_not]

/-- The first call works; it answers whether the first pass leaves no message. -/
theorem exists_start_messages (plan : Plan) (targets : List (String × String))
    (hsets : plan.sets ≠ []) :
    ∃ x, (plan.expansion targets).start plan.first =
        .ok (decide (plan.messages targets 1 = []), x) ∧
      x.phase = .passPending 1 ∧ plan.Report targets 1 x := by
  obtain ⟨ok, x, hstart, hphase, hstage⟩ := exists_start plan targets hsets
  obtain ⟨hok, hkeys⟩ := Expansion.start_eq_ok hstart
  have hreport : plan.Report targets 1 x :=
    { toStage := hstage, keys := hkeys.trans (keys_expansion plan targets) }
  rw [hreport.of_answer hok] at hstart
  exact ⟨x, hstart, hphase, hreport⟩

/-- The second call works; it answers whether no pass leaves a message. -/
theorem Report.exists_finish (h : plan.Report targets 1 x) (hphase : x.phase = .passPending 1)
    (hsets : plan.sets ≠ []) :
    ∃ y, x.finish plan.later =
        .ok (decide (plan.messages targets plan.sets.length = []), y) ∧
      plan.Report targets plan.sets.length y := by
  obtain ⟨ok, y, hfinish, hstage⟩ := h.toStage.exists_finish hphase hsets
  obtain ⟨hok, hkeys⟩ := Expansion.finish_eq_ok hfinish
  have hreport : plan.Report targets plan.sets.length y :=
    { toStage := hstage, keys := hkeys.trans h.keys }
  rw [hreport.of_answer hok] at hfinish
  exact ⟨y, hfinish, hreport⟩

/-- A text that a template comes to after `k` passes: each placeholder is replaced by what stands
for it. -/
def Expands (plan : Plan) (k : Nat) (template text : String) : Prop :=
  ∃ replacement : Placeholder → String,
    (∀ p ∈ Placeholder.scan template, ∀ t, plan.Replaced k p t ↔ t = replacement p) ∧
      text = substitute template replacement

theorem expands_shown {template : String} (hnone : plan.errorsAfter template k = []) :
    plan.Expands k template (substitute template (plan.shown k)) := by
  refine ⟨plan.shown k, ?_, rfl⟩
  intro p hp t
  refine replaced_iff (fun i hi => ?_) t
  exact errorsIn_eq_nil.1 (errorsAfter_eq_nil.1 hnone i hi) p hp

/-- A target without a message shows its template expanded. -/
theorem Stage.content (h : plan.Stage targets k x) {key template : String}
    (hkey : (Dictionary.ofList targets).get? key = some template)
    (hnone : plan.errorsAfter template k = []) :
    (x.result? key).bind (·.content) = some (substitute template (plan.shown k)) := by
  obtain ⟨t, ht, rfl, hdescribed⟩ := h.exists_target hkey
  have herrors : t.errors = [] := by rw [hdescribed.errors, hnone]
  have hcontent : t.result.content = some t.content := by
    simp [Target.result, Target.isFailed, herrors]
  rw [Expansion.result?, ht, Option.map_some, Option.bind_some, hcontent, Target.content,
    hdescribed.segments herrors, join_segmentsAfter]

/-- A target that shows something shows its template expanded. -/
theorem Stage.expands_of_content (h : plan.Stage targets k x) {key template text : String}
    (hkey : (Dictionary.ofList targets).get? key = some template)
    (htext : (x.result? key).bind (·.content) = some text) : plan.Expands k template text := by
  by_cases hnone : plan.errorsAfter template k = []
  · rw [h.content hkey hnone, Option.some.injEq] at htext
    subst htext
    exact expands_shown hnone
  · -- a target with messages shows nothing
    obtain ⟨t, ht, rfl, hdescribed⟩ := h.exists_target hkey
    have hcontent : t.result.content = none := by
      simp [Target.result, Target.isFailed, hdescribed.errors, hnone]
    rw [Expansion.result?, ht, Option.map_some, Option.bind_some, hcontent] at htext
    simp at htext

end Plan

end CommandTemplates
