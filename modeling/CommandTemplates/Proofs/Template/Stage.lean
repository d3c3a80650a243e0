/-
Where an expansion stands after some of its passes.

`Plan.Describes` says of a target that its parts and its messages are those that the
plan gives to its template.  `Plan.Stage` says so of a whole expansion, together with
what is remembered: it holds before the first pass (`Stage.initial`), every pass
takes it one further (`Stage.runPass`), and the two calls that run the passes take
it to its end (`exists_start`, `Stage.exists_finish`).  `forall_stages` puts these
together.
-/
import CommandTemplates.Proofs.Template.Pass

namespace CommandTemplates

namespace Expansion

/-- An expansion of some targets, before the first call. -/
def ofTargets (sets : List VariableSet) (fallbacks : SortedMap Fallback)
    (targets : List (String × String)) : Expansion :=
  targets.foldl (fun x target => x.addTarget target.1 target.2) { sets, fallbacks }

theorem phase_ofTargets (sets : List VariableSet) (fallbacks : SortedMap Fallback)
    (targets : List (String × String)) : (ofTargets sets fallbacks targets).phase = .created := by
  have hphase : ∀ x : Expansion,
      (targets.foldl (fun x target => x.addTarget target.1 target.2) x).phase = x.phase := by
    induction targets with
    | nil => exact fun _ => rfl
    | cons target targets ih => exact fun x => ih (x.addTarget target.1 target.2)
  exact hphase _

/-- The expansion after its first `k` passes, each in its context. -/
def afterPasses (x : Expansion) (context : Nat → Context) : Nat → Expansion
  | 0 => x
  | k + 1 => (x.afterPasses context k).runPass (context k) k

end Expansion

/-- The messages of a target are those reported, without repeats. -/
theorem Target.foldl_report (messages reported : List String) :
    messages.foldl Target.report reported.eraseDups = (reported ++ messages).eraseDups := by
  induction messages generalizing reported with
  | nil => simp
  | cons message messages ih =>
    have hreport : Target.report reported.eraseDups message =
        (reported ++ [message]).eraseDups := by
      rw [Target.report, List.eraseDups_append]
      by_cases hmem : message ∈ reported
      · simp [hmem, List.removeAll]
      · simp [hmem, List.removeAll, List.eraseDups_cons]
    rw [List.foldl_cons, hreport, ih]
    simp

theorem Target.template_run (pass : Pass) (memo : Memo) (t : Target) :
    (t.run pass memo).1.template = t.template := by
  unfold Target.run
  split <;> rfl

namespace Plan

variable {plan : Plan} {k : Nat} {t : Target} {targets : List (String × String)} {x : Expansion}

/-- The expansion of a plan with some targets, before its first pass. -/
def expansion (plan : Plan) (targets : List (String × String)) : Expansion :=
  targets.foldl (fun x target => x.addTarget target.1 target.2)
    { sets := plan.sets, fallbacks := plan.fallbacks }

/-- The parts of a template after `k` passes without a message. -/
def segmentsAfter (plan : Plan) (template : String) : Nat → List Segment
  | 0 => [.pending template 0]
  | k + 1 =>
    segments (plan.settled? (k + 1)) (Placeholder.cut template).2 [] 0
      (Placeholder.cut template).1

/-- The messages of a template after `k` passes: those of the first pass that leaves any. -/
def errorsAfter (plan : Plan) (template : String) : Nat → List String
  | 0 => []
  | k + 1 =>
    if plan.errorsAfter template k = [] then (plan.errorsIn k template).eraseDups
    else plan.errorsAfter template k

/-- A target that is as the plan has it after `k` passes. -/
structure Describes (plan : Plan) (k : Nat) (t : Target) : Prop where
  errors : t.errors = plan.errorsAfter t.template k
  segments : t.errors = [] → t.segments = plan.segmentsAfter t.template k

theorem eraseDups_eq_nil {α : Type} [BEq α] {l : List α} : l.eraseDups = [] ↔ l = [] := by
  cases l <;> simp [List.eraseDups_cons]

/-- A template has no messages exactly if no pass has left any. -/
theorem errorsAfter_eq_nil {template : String} :
    plan.errorsAfter template k = [] ↔ ∀ i < k, plan.errorsIn i template = [] := by
  induction k with
  | zero => simp [errorsAfter]
  | succ k ih =>
    rw [errorsAfter]
    split
    · next hnone =>
      rw [eraseDups_eq_nil]
      constructor
      · intro h i hi
        by_cases hk : i = k
        · rw [hk, h]
        · exact ih.1 hnone i (by omega)
      · intro h
        exact h k (by omega)
    · next hsome =>
      constructor
      · intro h
        exact absurd h hsome
      · intro h
        exact absurd (ih.2 fun i hi => h i (by omega)) hsome

theorem errorsIn_eq_filterMap (i : Nat) (template : String) :
    plan.errorsIn i template =
      (Placeholder.cut template).1.filterMap fun piece => plan.failure? i piece.2 := by
  rw [errorsIn, Placeholder.scan, List.filterMap_map]
  rfl

theorem errorsIn_eq_nil {i : Nat} {template : String} :
    plan.errorsIn i template = [] ↔
      ∀ p ∈ Placeholder.scan template, plan.failure? i p = none := by
  rw [errorsIn, List.filterMap_eq_nil_iff]

theorem mem_scan_of_mem_cut {template : String} {piece : List Char × Placeholder}
    (h : piece ∈ (Placeholder.cut template).1) : piece.2 ∈ Placeholder.scan template :=
  List.mem_map_of_mem h

/-- A pass reads the parts of a target as the cut of its template. -/
theorem expandSegments_segmentsAfter (pass : Pass) (memo : Memo) (template : String) (k : Nat) :
    pass.expandSegments memo (plan.segmentsAfter template k) =
      pass.expandSegments memo (segments (plan.settled? k) (Placeholder.cut template).2 [] 0
        (Placeholder.cut template).1) := by
  cases k with
  | succ k => rfl
  | zero =>
    have htext : Placeholder.piecesText (Placeholder.cut template).1 ++
        (Placeholder.cut template).2 = template.toList :=
      Placeholder.piecesText_cutFrom 0 template.toList
    have hpending := pass.expandSegments_pendingText memo 0 template.toList []
    rw [List.append_nil, String.ofList_toList] at hpending
    rw [segments_of_pending fun piece _ => plan.settled?_zero piece.2, List.nil_append, htext,
      hpending]
    rfl

theorem describes_ofTemplate (plan : Plan) (template : String) :
    plan.Describes 0 (.ofTemplate template) := ⟨rfl, fun _ => rfl⟩

theorem Describes.failure?_eq_none (h : plan.Describes k t) (hnone : t.errors = [])
    {p : Placeholder} (hp : p ∈ Placeholder.scan t.template) {i : Nat} (hi : i < k) :
    plan.failure? i p = none := by
  have herrors : plan.errorsAfter t.template k = [] := h.errors ▸ hnone
  exact errorsIn_eq_nil.1 (errorsAfter_eq_nil.1 herrors i hi) p hp

/-- A pass takes a target one pass further. -/
theorem Describes.run {available : VariableSet} {memo : Memo}
    (hset : plan.sets[k]? = some available) (hmemo : plan.Tells memo) (h : plan.Describes k t) :
    plan.Describes (k + 1) (t.run (plan.pass k available) memo).1 ∧
      plan.Tells (t.run (plan.pass k available) memo).2 := by
  unfold Target.run
  split
  · -- a failed target is left alone, and so are its messages
    next hfailed =>
    have hsome : t.errors ≠ [] := by simpa [Target.isFailed] using hfailed
    refine ⟨⟨?_, fun hnone => absurd hnone hsome⟩, hmemo⟩
    rw [errorsAfter, if_neg (h.errors ▸ hsome)]
    exact h.errors
  · next hfailed =>
    have hnone : t.errors = [] := by simpa [Target.isFailed] using hfailed
    have herrors : plan.errorsAfter t.template k = [] := h.errors ▸ hnone
    have hearlier : ∀ piece ∈ [] ++ (Placeholder.cut t.template).1,
        ∀ j < k, plan.failure? j piece.2 = none := by
      intro piece hpiece j hj
      exact h.failure?_eq_none hnone (mem_scan_of_mem_cut hpiece) hj
    have hcut : Placeholder.cutFrom 0 t.template.toList =
        ([] ++ (Placeholder.cut t.template).1, (Placeholder.cut t.template).2) := rfl
    -- its parts are read as the cut of its template, with nothing gathered up in front
    obtain ⟨parts, memo', hparts, hmemo', hsegments⟩ :=
      expandSegments_segments hset hcut (by simp) hearlier memo hmemo
    rw [List.nil_append, ← errorsIn_eq_filterMap, Placeholder.piecesText_nil,
      ← expandSegments_segmentsAfter, ← h.segments hnone] at hparts
    have hreported : (plan.errorsIn k t.template).foldl Target.report t.errors =
        (plan.errorsIn k t.template).eraseDups := by
      rw [hnone]
      exact Target.foldl_report (plan.errorsIn k t.template) []
    simp only [hparts, hreported]
    refine ⟨⟨?_, ?_⟩, hmemo'⟩
    · rw [errorsAfter, if_pos herrors]
    · intro hno
      have hnow := errorsIn_eq_nil.1 (eraseDups_eq_nil.1 hno)
      exact hsegments fun piece hpiece => hnow piece.2 (mem_scan_of_mem_cut hpiece)

/-! ### The whole expansion -/

/-- An expansion that is where the plan has it after `k` passes. -/
structure Stage (plan : Plan) (targets : List (String × String)) (k : Nat) (x : Expansion) :
    Prop where
  sets : x.sets = plan.sets
  fallbacks : x.fallbacks = plan.fallbacks
  memo : plan.Tells x.memo
  templates : ∀ key, (x.targets.get? key).map (·.template) =
    (Dictionary.ofList targets).get? key
  described : ∀ e ∈ x.targets.entries, plan.Describes k e.2

theorem Stage.exists_target (h : plan.Stage targets k x) {key template : String}
    (hkey : (Dictionary.ofList targets).get? key = some template) :
    ∃ t, x.targets.get? key = some t ∧ t.template = template ∧ plan.Describes k t := by
  rw [← h.templates key] at hkey
  obtain ⟨t, ht, htemplate⟩ := Option.map_eq_some_iff.1 hkey
  exact ⟨t, ht, htemplate, h.described (key, t) (Dictionary.mem_of_get? ht)⟩

theorem Stage.addTarget (h : plan.Stage targets 0 x) (key template : String) :
    plan.Stage (targets ++ [(key, template)]) 0 (x.addTarget key template) := by
  refine ⟨h.sets, h.fallbacks, h.memo, ?_, ?_⟩
  · intro key'
    have hlist : Dictionary.ofList (targets ++ [(key, template)]) =
        (Dictionary.ofList targets).insert key template := by
      rw [Dictionary.ofList, List.foldl_append]
      rfl
    rw [hlist, Expansion.addTarget, Dictionary.get?_insert, Dictionary.get?_insert]
    split
    · rfl
    · exact h.templates key'
  · intro e he
    rcases Dictionary.mem_of_mem_insertEntry he with rfl | he
    · exact plan.describes_ofTemplate template
    · exact h.described e he

theorem Stage.addTargets {added : List (String × String)} (h : plan.Stage added 0 x) :
    plan.Stage (added ++ targets) 0
      (targets.foldl (fun x target => x.addTarget target.1 target.2) x) := by
  induction targets generalizing added x with
  | nil =>
    rw [List.append_nil]
    exact h
  | cons target targets ih =>
    have hadded : plan.Stage ((added ++ [target]) ++ targets) 0 _ :=
      ih (h.addTarget target.1 target.2)
    rw [List.append_assoc] at hadded
    exact hadded

theorem Stage.initial (plan : Plan) (targets : List (String × String)) :
    plan.Stage targets 0 (plan.expansion targets) := by
  have hempty : plan.Stage [] 0 { sets := plan.sets, fallbacks := plan.fallbacks } :=
    ⟨rfl, rfl, plan.tells_empty, fun _ => rfl, by simp [Dictionary.empty]⟩
  exact hempty.addTargets

theorem phase_expansion (plan : Plan) (targets : List (String × String)) :
    (plan.expansion targets).phase = .created :=
  Expansion.phase_ofTargets plan.sets plan.fallbacks targets

/-- A pass takes an expansion one pass further. -/
theorem Stage.runPass (h : plan.Stage targets k x) (hk : k < plan.sets.length) :
    plan.Stage targets (k + 1) (x.runPass (plan.context k) k) := by
  have hset : plan.sets[k]? = some plan.sets[k] := List.getElem?_eq_getElem hk
  -- the sets and defaults have not changed, so this is the pass of the plan
  have hpass : (⟨k, plan.sets[k], x.known, x.fallbacks, plan.context k⟩ : Pass) =
      plan.pass k plan.sets[k] := by
    rw [Expansion.known, h.sets, h.fallbacks]
    rfl
  have hrun : x.runPass (plan.context k) k =
      { x with
        targets := (x.targets.passValues (Target.run (plan.pass k plan.sets[k])) x.memo).1
        memo := (x.targets.passValues (Target.run (plan.pass k plan.sets[k])) x.memo).2 } := by
    simp only [Expansion.runPass, h.sets, hset, ← hpass]
  have hvalues := Dictionary.forall_mem_passEntries
    (fun memo t hmemo ht => ht.run hset hmemo) h.memo h.described
  rw [hrun]
  refine ⟨h.sets, h.fallbacks, hvalues.2, ?_, hvalues.1⟩
  intro key
  rw [← h.templates key]
  exact Dictionary.map_get?_passValues (fun memo t => Target.template_run _ memo t) _ _ key

/-- The passes after the first take an expansion as far as there are passes. -/
theorem Stage.foldl_runPass (h : plan.Stage targets k x) (hfirst : 0 < k) (n : Nat)
    (hn : k + n ≤ plan.sets.length) :
    plan.Stage targets (k + n)
      ((List.range' k n).foldl (fun x i => x.runPass plan.later i) x) := by
  induction n generalizing k x with
  | zero => exact h
  | succ n ih =>
    have hcontext : plan.context k = plan.later := by
      rw [context, if_neg (by omega)]
    have hnext := h.runPass (by omega)
    rw [hcontext] at hnext
    have hrest := ih hnext (by omega) (by omega)
    rw [List.range'_succ, List.foldl_cons]
    rwa [show k + 1 + n = k + (n + 1) by omega] at hrest

theorem Stage.withPhase (h : plan.Stage targets k x) (phase : Phase) :
    plan.Stage targets k { x with phase } :=
  ⟨h.sets, h.fallbacks, h.memo, h.templates, h.described⟩

theorem Stage.close (h : plan.Stage targets k x) : plan.Stage targets k x.close := by
  refine ⟨h.sets, h.fallbacks, h.memo, ?_, ?_⟩
  · intro key
    rw [← h.templates key, Expansion.close, Dictionary.get?_mapValues, Option.map_map]
    rfl
  · intro e he
    obtain ⟨earlier, hearlier, rfl⟩ := List.mem_map.1 he
    have hdescribed := h.described earlier hearlier
    exact ⟨hdescribed.errors, hdescribed.segments⟩

/-- Any number of passes leaves the expansion where the plan has it. -/
theorem Stage.afterPasses (plan : Plan) (targets : List (String × String))
    (hk : k ≤ plan.sets.length) :
    plan.Stage targets k ((plan.expansion targets).afterPasses plan.context k) := by
  induction k with
  | zero => exact .initial plan targets
  | succ k ih => exact (ih (by omega)).runPass (by omega)

/-- The first call works, and leaves the expansion where the plan has it after one pass. -/
theorem exists_start (plan : Plan) (targets : List (String × String)) (hsets : plan.sets ≠ []) :
    ∃ ok x, (plan.expansion targets).start plan.first = .ok (ok, x) ∧
      x.phase = .passPending 1 ∧ plan.Stage targets 1 x := by
  have hfirst := (Stage.initial plan targets).runPass (List.length_pos_iff.2 hsets)
  refine ⟨!((plan.expansion targets).runPass plan.first 0).anyFailed, _, ?_, rfl,
    hfirst.withPhase (.passPending 1)⟩
  rw [Expansion.start, phase_expansion]
  rfl

/-- The second call works, and leaves the expansion where the plan has it after the last pass. -/
theorem Stage.exists_finish (h : plan.Stage targets 1 x) (hphase : x.phase = .passPending 1)
    (hsets : plan.sets ≠ []) :
    ∃ ok y, x.finish plan.later = .ok (ok, y) ∧ plan.Stage targets plan.sets.length y := by
  have hlength : 1 ≤ plan.sets.length := List.length_pos_iff.2 hsets
  have hlast := h.foldl_runPass Nat.one_pos (plan.sets.length - 1) (by omega)
  rw [show 1 + (plan.sets.length - 1) = plan.sets.length by omega, ← h.sets] at hlast
  refine ⟨!(x.runFrom plan.later 1).close.anyFailed, (x.runFrom plan.later 1).close, ?_, ?_⟩
  · rw [Expansion.finish, hphase]
  · rw [← h.sets]
    exact hlast.close

/-- What holds of an expansion wherever the plan has it holds after any number of passes, and after
each of the two calls. -/
theorem forall_stages {P : Nat → Expansion → Prop}
    (h : ∀ k x, plan.Stage targets k x → P k x) (hsets : plan.sets ≠ []) :
    (∀ k ≤ plan.sets.length, P k ((plan.expansion targets).afterPasses plan.context k)) ∧
      ∃ ok x, (plan.expansion targets).start plan.first = .ok (ok, x) ∧ P 1 x ∧
        ∃ ok' y, x.finish plan.later = .ok (ok', y) ∧ P plan.sets.length y := by
  obtain ⟨ok, x, hstart, hphase, hfirst⟩ := exists_start plan targets hsets
  obtain ⟨ok', y, hfinish, hlast⟩ := hfirst.exists_finish hphase hsets
  refine ⟨?_, ok, x, hstart, h 1 x hfirst, ok', y, hfinish, h plan.sets.length y hlast⟩
  intro k hk
  exact h k _ (Stage.afterPasses plan targets hk)

end Plan

end CommandTemplates
