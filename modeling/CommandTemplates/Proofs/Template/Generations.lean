/-
Each value is made at most once.

A variable is asked to make a value when a pass comes to a request that is not yet
remembered.  Over the life of an expansion, whatever calls are made, that is once for
each name and argument texts, in the pass of the first set with the name, for a
placeholder of a target that has no error yet.

* `Expansion.passes` — the passes that some calls run, each in its context, which are the
  first ones of a plan by `Plan.exists_afterPasses`;
* `Plan.Recorded` — what has been made after some passes, with `Recorded.runPass` as
  its step and `Plan.recorded_afterPasses` as its run;
* `Expansion.generates_once` — the values that are made, after any calls.
-/
import CommandTemplates.Proofs.Template.Independence
import CommandTemplates.Proofs.Template.Requests

namespace CommandTemplates

namespace Expansion

variable {x : Expansion} {i : Nat} {ctx : Context} {request : Request} {v : Variable}
  {arguments : Arguments}

/-- Whether an expansion that is about to run pass `i` needs the value of a variable: the set of
the pass is the first one with the name, the arguments suit the variable, which does not refuse, and
an unescaped placeholder of a target without an error asks for the value. -/
structure Asks (x : Expansion) (i : Nat) (ctx : Context) (request : Request) (v : Variable)
    (arguments : Arguments) : Prop where
  first : firstWith? request.name x.sets = some (i, v)
  bound : Arguments.bind request.name v.parameters request.arguments = .ok arguments
  accepted : v.refusal? ctx = none
  written : ∃ t ∈ x.targets.values, t.errors = [] ∧
    ∃ p ∈ Placeholder.scan t.template,
      p.escaped = false ∧ p.name = request.name ∧ p.arguments = request.arguments

/-! ### The passes that some calls run -/

/-- The passes that a call runs, each in its context. -/
def passesOf (x : Expansion) (call : Call) : List (Nat × Context) :=
  match x.phase, call.kind with
  | .created, .start => (List.range (min 1 x.sets.length)).map (·, call.context)
  | .passPending first, .finish =>
    (List.range' first (x.sets.length - first)).map (·, call.context)
  | _, _ => []

/-- The passes that some calls run, in their order. -/
def passes (x : Expansion) : List Call → List (Nat × Context)
  | [] => []
  | call :: calls => x.passesOf call ++ (x.perform call).2.passes calls

/-- The expansion after some passes. -/
def runPasses (x : Expansion) (passes : List (Nat × Context)) : Expansion :=
  passes.foldl (fun x pass => x.runPass pass.2 pass.1) x

theorem runPasses_append (x : Expansion) (passes more : List (Nat × Context)) :
    x.runPasses (passes ++ more) = (x.runPasses passes).runPasses more := List.foldl_append

theorem runPasses_range (x : Expansion) (context : Nat → Context) (k : Nat) :
    x.runPasses ((List.range k).map fun i => (i, context i)) = x.afterPasses context k := by
  induction k with
  | zero => rfl
  | succ k ih =>
    rw [List.range_succ, List.map_append, runPasses_append, ih]
    rfl

theorem runPasses_take_range (x : Expansion) (context : Nat → Context) {n k : Nat} (h : n ≤ k) :
    x.runPasses (((List.range k).map fun i => (i, context i)).take n) =
      x.afterPasses context n := by
  rw [← List.map_take, List.take_range, Nat.min_eq_left h, runPasses_range]

/-- A pass does not look at where the expansion stands. -/
theorem runPasses_withPhase (x : Expansion) (phase : Phase) (passes : List (Nat × Context)) :
    { x with phase }.runPasses passes = { x.runPasses passes with phase } := by
  induction passes generalizing x with
  | nil => rfl
  | cons pass passes ih =>
    have hpass : { x with phase }.runPass pass.2 pass.1 =
        { x.runPass pass.2 pass.1 with phase } := by
      unfold runPass
      dsimp only
      cases x.sets[pass.1]? <;> rfl
    rw [runPasses, List.foldl_cons, ← runPasses, hpass, ih]
    rfl

theorem runFrom_eq_runPasses (x : Expansion) (ctx : Context) (first : Nat) :
    x.runFrom ctx first =
      x.runPasses ((List.range' first (x.sets.length - first)).map (·, ctx)) := by
  rw [runFrom, runPasses, List.foldl_map]

theorem begun_eq_runPasses (x : Expansion) (ctx : Context) :
    x.begun ctx = { x.runPasses ((List.range (min 1 x.sets.length)).map (·, ctx)) with
      phase := .passPending 1 } := by
  cases hsets : x.sets with
  | nil => simp [begun, runPass, hsets, runPasses]
  | cons available sets => simp [begun, runPasses]

theorem sets_runPass (x : Expansion) (ctx : Context) (i : Nat) :
    (x.runPass ctx i).sets = x.sets := by
  unfold runPass
  split <;> rfl

theorem passes_of_closed (hphase : x.phase = .succeeded ∨ x.phase = .failed)
    (calls : List Call) : x.passes calls = [] := by
  induction calls with
  | nil => rfl
  | cons call calls ih =>
    have hcall : x.passesOf call = [] := by
      rcases hphase with hphase | hphase <;> cases hkind : call.kind <;>
        simp [passesOf, hphase, hkind]
    rw [passes, hcall, perform_of_closed hphase, ih, List.append_nil]

theorem passes_of_passPending {first : Nat} (hphase : x.phase = .passPending first)
    (calls : List Call) :
    x.passes calls =
      match calls.dropWhile (·.kind = .start) with
      | [] => []
      | call :: _ => (List.range' first (x.sets.length - first)).map (·, call.context) := by
  induction calls with
  | nil => rfl
  | cons call calls ih =>
    rw [passes, perform_of_passPending hphase, List.dropWhile_cons]
    cases hkind : call.kind with
    | start => simpa [passesOf, hphase, hkind] using ih
    | finish => simp [passesOf, hphase, hkind, passes_of_closed (x.phase_ended call.context first)]

theorem passes_of_created (hphase : x.phase = .created) (calls : List Call) :
    x.passes calls =
      match calls.dropWhile (·.kind = .finish) with
      | [] => []
      | call :: rest =>
        (List.range (min 1 x.sets.length)).map (·, call.context) ++
          (x.begun call.context).passes rest := by
  induction calls with
  | nil => rfl
  | cons call calls ih =>
    rw [passes, perform_of_created hphase, List.dropWhile_cons]
    cases hkind : call.kind with
    | start => simp [passesOf, hphase, hkind]
    | finish => simpa [passesOf, hphase, hkind] using ih

/-- The first call's context is that of the first pass alone. -/
theorem map_context_first (plan : Plan) (n : Nat) :
    (List.range (min 1 n)).map (fun i => (i, plan.first)) =
      (List.range (min 1 n)).map fun i => (i, plan.context i) := by
  refine List.map_congr_left fun i hi => ?_
  have hzero : i = 0 := by
    have := List.mem_range.1 hi
    omega
  rw [hzero]
  rfl

/-- The later call's context is that of every pass but the first. -/
theorem map_context_later (plan : Plan) (n : Nat) :
    (List.range' 1 (n - 1)).map (fun i => (i, plan.later)) =
      (List.range' 1 (n - 1)).map fun i => (i, plan.context i) := by
  refine List.map_congr_left fun i hi => ?_
  have hpos : i ≠ 0 := by
    have := (List.mem_range'_1.1 hi).1
    omega
  rw [Plan.context, if_neg hpos]

/-- The passes of the two calls, put together, are all passes. -/
theorem range_min_append_range' (n : Nat) :
    List.range (min 1 n) ++ List.range' 1 (n - 1) = List.range n := by
  cases n with
  | zero => rfl
  | succ n => simp [List.range_eq_range', List.range'_succ]

/-- All that calls do to what is remembered is to run their passes, and these are the first ones of
a plan. -/
theorem exists_passes (h : x.phase = .created) (calls : List Call) :
    ∃ first later k, k ≤ x.sets.length ∧
      x.passes calls = (List.range k).map
        (fun i => (i, (Plan.mk x.sets x.fallbacks first later).context i)) ∧
      (x.afterCalls calls).memo = (x.runPasses (x.passes calls)).memo := by
  obtain ⟨ctx⟩ : Nonempty Context := inferInstance
  -- before the first `start` nothing runs, and behind it only the first `finish` does
  rw [afterCalls_of_created h, passes_of_created h]
  cases calls.dropWhile (·.kind = .finish) with
  | nil => exact ⟨ctx, ctx, 0, Nat.zero_le _, rfl, rfl⟩
  | cons call rest =>
    have hphase : (x.begun call.context).phase = .passPending 1 := rfl
    have hsets : (x.begun call.context).sets = x.sets := x.sets_runPass call.context 0
    dsimp only
    rw [afterCalls_of_passPending hphase, passes_of_passPending hphase, hsets]
    cases rest.dropWhile (·.kind = .start) with
    | nil =>
      -- a plan needs two contexts, but its second one is used in no pass so far
      refine ⟨call.context, ctx, min 1 x.sets.length, Nat.min_le_right _ _, ?_, ?_⟩
      · rw [List.append_nil]
        exact map_context_first ⟨x.sets, x.fallbacks, call.context, ctx⟩ x.sets.length
      · rw [List.append_nil, begun_eq_runPasses]
    | cons call' _ =>
      let plan : Plan := ⟨x.sets, x.fallbacks, call.context, call'.context⟩
      have hfirst := map_context_first plan x.sets.length
      have hlater := map_context_later plan x.sets.length
      dsimp only
      refine ⟨call.context, call'.context, x.sets.length, Nat.le_refl _, ?_, ?_⟩
      · rw [hfirst, hlater, ← List.map_append, range_min_append_range']
      · rw [runPasses_append, ended, close, runFrom_eq_runPasses, hsets, begun_eq_runPasses,
          runPasses_withPhase]

theorem memo_ofTargets (sets : List VariableSet) (fallbacks : SortedMap Fallback)
    (targets : List (String × String)) : (ofTargets sets fallbacks targets).memo = {} := by
  have hmemo : ∀ x : Expansion,
      (targets.foldl (fun x target => x.addTarget target.1 target.2) x).memo = x.memo := by
    induction targets with
    | nil => exact fun _ => rfl
    | cons target targets ih => exact fun x => ih (x.addTarget target.1 target.2)
  exact hmemo _

end Expansion

namespace Plan

variable {plan : Plan} {targets : List (String × String)} {k : Nat} {x : Expansion}

/-! ### What has been made after some passes -/

/-- What an expansion after `k` passes has made: the values that were needed as each of these passes
began.  `before i` is the expansion before pass `i`. -/
structure Recorded (plan : Plan) (before : Nat → Expansion) (k : Nat) (memo : Memo) : Prop where
  counted : memo.Counted
  remembered : ∀ request, memo.results.get? request ≠ none →
    ∃ i v, i < k ∧ firstWith? request.name plan.sets = some (i, v)
  generated : ∀ g, g ∈ memo.generated ↔ g.pass < k ∧ ∃ v arguments,
    (before g.pass).Asks g.pass (plan.context g.pass) g.request v arguments

theorem recorded_empty (plan : Plan) (before : Nat → Expansion) : plan.Recorded before 0 {} :=
  ⟨Memo.counted_empty, by simp, by simp⟩

/-- The requests that pass `k` can answer are those of the variables of its set that no earlier set
has. -/
theorem Stage.mem_requests (h : plan.Stage targets k x) {available : VariableSet}
    (hset : plan.sets[k]? = some available) {request : Request} {v : Variable} :
    (request ∈ x.requests ∧ available.get? request.name = some v) ↔
      firstWith? request.name plan.sets = some (k, v) ∧
        ∃ t ∈ x.targets.values, t.errors = [] ∧ ∃ p ∈ Placeholder.scan t.template,
          p.escaped = false ∧ p.name = request.name ∧ p.arguments = request.arguments := by
  have hdescribed : ∀ t ∈ x.targets.values, plan.Describes k t := by
    intro t ht
    obtain ⟨e, he, rfl⟩ := List.mem_map.1 ht
    exact h.described e he
  constructor
  · rintro ⟨hrequest, hget⟩
    obtain ⟨t, ht, hrequest⟩ := List.mem_flatMap.1 hrequest
    have hnone : t.errors = [] := by
      by_contra hsome
      simp [Target.requests, Target.isFailed, hsome] at hrequest
    rw [(hdescribed t ht).requests_eq hnone] at hrequest
    obtain ⟨p, hp, hasks⟩ := List.mem_filterMap.1 hrequest
    obtain ⟨hmem, hpending⟩ := List.mem_filter.1 hp
    obtain ⟨hescaped, hname, harguments⟩ := Placeholder.request?_eq_some_iff.1 hasks
    -- the set has the name, but so far an earlier one might have it, too
    obtain ⟨j, w, hfirst, hle, hsame⟩ := exists_firstWith? hset hget
    -- a set before this one would have settled the placeholder, or failed the target
    have hk : k ≤ j := by
      refine le_of_settled?_eq_none hescaped (hname ▸ hfirst) (Option.isNone_iff_eq_none.1 hpending)
        ?_
      intro i hi
      exact (hdescribed t ht).failure?_eq_none hnone hmem hi
    obtain rfl : j = k := Nat.le_antisymm hle hk
    rw [hsame rfl] at hfirst
    exact ⟨hfirst, t, ht, hnone, p, hmem, hescaped, hname, harguments⟩
  · rintro ⟨hfirst, t, ht, hnone, p, hmem, hescaped, hname, harguments⟩
    obtain ⟨s, hs, hget⟩ := get?_of_firstWith? hfirst
    rw [hset, Option.some.injEq] at hs
    refine ⟨List.mem_flatMap.2 ⟨t, ht, ?_⟩, hs ▸ hget⟩
    rw [(hdescribed t ht).requests_eq hnone]
    have hpending : plan.settled? k p = none :=
      settled?_waiting hescaped (hname ▸ hfirst) (Nat.le_refl k)
    refine List.mem_filterMap.2 ⟨p, List.mem_filter.2 ⟨hmem, by simp [hpending]⟩, ?_⟩
    exact Placeholder.request?_eq_some_iff.2 ⟨hescaped, hname, harguments⟩

/-- A pass makes the values that are needed as it begins, and no others. -/
theorem Recorded.runPass {before : Nat → Expansion} (h : plan.Recorded before k x.memo)
    (hstage : plan.Stage targets k x) (hk : k < plan.sets.length) (hbefore : before k = x) :
    plan.Recorded before (k + 1) (x.runPass (plan.context k) k).memo := by
  have hset : plan.sets[k]? = some plan.sets[k] := List.getElem?_eq_getElem hk
  have hset' : x.sets[k]? = some plan.sets[k] := by rw [hstage.sets, hset]
  rw [Expansion.memo_runPass hset']
  generalize hpass : (⟨k, plan.sets[k], x.known, x.fallbacks, plan.context k⟩ : Pass) = pass
  subst hpass
  refine ⟨Pass.counted_foldl_ask h.counted x.requests, ?_, ?_⟩
  · intro request hremembered
    rw [Pass.get?_foldl_ask] at hremembered
    rcases hremembered with hold | ⟨hrequest, v, arguments, hanswers⟩
    · obtain ⟨i, v, hi, hfirst⟩ := h.remembered request hold
      exact ⟨i, v, by omega, hfirst⟩
    · have hfirst := ((hstage.mem_requests hset).1 ⟨hrequest, hanswers.available⟩).1
      exact ⟨k, v, Nat.lt_succ_self k, hfirst⟩
  · intro g
    rw [Pass.mem_generated_foldl_ask, h.generated]
    constructor
    · rintro (⟨hg, hasks⟩ | ⟨hg, hrequest, -, v, arguments, hanswers, haccepted⟩)
      · exact ⟨by omega, hasks⟩
      · dsimp only at hg haccepted
        obtain ⟨hfirst, hwritten⟩ :=
          (hstage.mem_requests hset).1 ⟨hrequest, hanswers.available⟩
        refine ⟨by omega, v, arguments, ?_⟩
        rw [hg, hbefore]
        exact ⟨hstage.sets ▸ hfirst, hanswers.bound, haccepted, hwritten⟩
    · rintro ⟨hg, v, arguments, hasks⟩
      -- a value of an earlier pass was made before; one of this pass is made now
      by_cases hlast : g.pass = k
      · rw [hlast, hbefore] at hasks
        have hfirst : firstWith? g.request.name plan.sets = some (k, v) :=
          hstage.sets ▸ hasks.first
        obtain ⟨hrequest, hget⟩ := (hstage.mem_requests hset).2 ⟨hfirst, hasks.written⟩
        -- only the pass of the first set with the name could have remembered it
        have hnew : x.memo.results.get? g.request = none := by
          by_contra hold
          obtain ⟨i, w, hi, hfirst'⟩ := h.remembered g.request hold
          rw [hfirst, Option.some.injEq, Prod.mk.injEq] at hfirst'
          omega
        exact .inr ⟨hlast, hrequest, hnew, v, arguments, ⟨hget, hasks.bound⟩, hasks.accepted⟩
      · exact .inl ⟨by omega, v, arguments, hasks⟩

theorem recorded_afterPasses (plan : Plan) (targets : List (String × String))
    (hk : k ≤ plan.sets.length) :
    plan.Recorded ((plan.expansion targets).afterPasses plan.context) k
      ((plan.expansion targets).afterPasses plan.context k).memo := by
  induction k with
  | zero =>
    have hmemo : (plan.expansion targets).memo = {} :=
      Expansion.memo_ofTargets plan.sets plan.fallbacks targets
    show plan.Recorded _ 0 (plan.expansion targets).memo
    rw [hmemo]
    exact plan.recorded_empty _
  | succ k ih =>
    exact (ih (by omega)).runPass (Stage.afterPasses plan targets (by omega)) (by omega) rfl

/-- What is remembered of a value that was made is the value of the variable that was asked. -/
theorem Recorded.get?_of_asks {before : Nat → Expansion} {memo : Memo} {g : Generation}
    {v : Variable} {arguments : Arguments} (h : plan.Recorded before k memo)
    (htells : plan.Tells memo) (hg : g ∈ memo.generated)
    (hsets : (before g.pass).sets = plan.sets)
    (hasks : (before g.pass).Asks g.pass (plan.context g.pass) g.request v arguments) :
    memo.results.get? g.request = some (v.generate arguments (plan.context g.pass)) := by
  obtain ⟨result, hresult⟩ := Option.ne_none_iff_exists'.1 (h.counted.remembered g hg)
  obtain ⟨i, w, others, hfirst, hbind, rfl⟩ := htells g.request result hresult
  -- both are of the first variable with the name, on the only arguments that the texts give
  have hsame := hasks.first
  rw [hsets, hfirst, Option.some.injEq, Prod.mk.injEq] at hsame
  obtain ⟨rfl, rfl⟩ := hsame
  rw [hasks.bound, Except.ok.injEq] at hbind
  subst hbind
  rw [hresult, Variable.resolve, hasks.accepted]

/-- The passes that calls run, one after the other, are the first ones of a plan. -/
theorem exists_afterPasses (sets : List VariableSet) (fallbacks : SortedMap Fallback)
    (targets : List (String × String)) (calls : List Call) :
    ∃ (plan : Plan) (k : Nat), k ≤ plan.sets.length ∧
      plan.expansion targets = Expansion.ofTargets sets fallbacks targets ∧
      (plan.expansion targets).passes calls =
        (List.range k).map (fun i => (i, plan.context i)) ∧
      ((plan.expansion targets).afterCalls calls).memo =
        ((plan.expansion targets).afterPasses plan.context k).memo := by
  obtain ⟨first, later, k, hk, hpasses, hmemo⟩ :=
    Expansion.exists_passes (Expansion.phase_ofTargets sets fallbacks targets) calls
  have hinitial := Stage.initial ⟨sets, fallbacks, first, later⟩ targets
  have hsets : (Expansion.ofTargets sets fallbacks targets).sets = sets := hinitial.sets
  have hfallbacks : (Expansion.ofTargets sets fallbacks targets).fallbacks = fallbacks :=
    hinitial.fallbacks
  rw [hsets] at hk
  rw [hsets, hfallbacks] at hpasses
  rw [hpasses, Expansion.runPasses_range] at hmemo
  exact ⟨⟨sets, fallbacks, first, later⟩, k, hk, rfl, hpasses, hmemo⟩

end Plan

namespace Expansion

/-- The values that are made, after any calls in and out of order.  No request is made twice, not
even one that failed; what an expansion needs as one of its passes begins is made in that pass; and
nothing else is ever made, so a variable is not asked where an earlier set has its name.  Once a
value is made, its request is answered with it and without a variable: any other one, on any
arguments and in any pass, would do as well. -/
theorem generates_once (sets : List VariableSet) (fallbacks : SortedMap Fallback)
    (targets : List (String × String)) (calls : List Call) :
    let x := ofTargets sets fallbacks targets
    let passes := x.passes calls
    let memo := (x.afterCalls calls).memo
    (memo.generated.map (·.request)).Nodup ∧
      (∀ n i ctx request v arguments, passes[n]? = some (i, ctx) →
        (x.runPasses (passes.take n)).Asks i ctx request v arguments →
          ⟨i, request⟩ ∈ memo.generated) ∧
      ∀ g ∈ memo.generated, ∃ n ctx v arguments, passes[n]? = some (g.pass, ctx) ∧
        (x.runPasses (passes.take n)).Asks g.pass ctx g.request v arguments ∧
        memo.results.get? g.request = some (v.generate arguments ctx) ∧
        ∀ (pass : Pass) (w : Variable) (others : Arguments),
          pass.result memo w g.request others = (v.generate arguments ctx, memo) := by
  obtain ⟨plan, k, hk, hplan, hpasses, hmemo⟩ :=
    Plan.exists_afterPasses sets fallbacks targets calls
  rw [← hplan]
  intro x passes memo
  change passes = _ at hpasses
  change memo = _ at hmemo
  have hrecorded : plan.Recorded (x.afterPasses plan.context) k memo :=
    hmemo ▸ plan.recorded_afterPasses targets hk
  have htells : plan.Tells memo := hmemo ▸ (Plan.Stage.afterPasses plan targets hk).memo
  -- pass `n` that the calls run is pass `n` of the plan
  have hget : ∀ n, n < k → passes[n]? = some (n, plan.context n) := by
    intro n hn
    simp [hpasses, hn]
  have htake : ∀ n, n < k → x.runPasses (passes.take n) = x.afterPasses plan.context n := by
    intro n hn
    rw [hpasses, x.runPasses_take_range plan.context (Nat.le_of_lt hn)]
  refine ⟨hrecorded.counted.nodup, ?_, ?_⟩
  · intro n i ctx request v arguments hn hasks
    have hlt : n < k := by
      obtain ⟨hlength, -⟩ := List.getElem?_eq_some_iff.1 hn
      simpa [hpasses] using hlength
    rw [hget n hlt, Option.some.injEq, Prod.mk.injEq] at hn
    obtain ⟨rfl, rfl⟩ := hn
    rw [htake n hlt] at hasks
    exact (hrecorded.generated ⟨n, request⟩).2 ⟨hlt, v, arguments, hasks⟩
  · intro g hg
    -- what is remembered at the end is the value that was made then
    obtain ⟨hlt, v, arguments, hasks⟩ := (hrecorded.generated g).1 hg
    have hstage : plan.Stage targets g.pass (x.afterPasses plan.context g.pass) :=
      Plan.Stage.afterPasses plan targets (by omega)
    have hremembered := hrecorded.get?_of_asks htells hg hstage.sets hasks
    refine ⟨g.pass, plan.context g.pass, v, arguments, hget g.pass hlt, ?_, hremembered,
      Pass.result_of_remembered hremembered⟩
    rw [htake g.pass hlt]
    exact hasks

/-- Both targets ask for `a`, which both sets have, and calls out of order make nothing. -/
example :
    let x := ofTargets Plan.commonName.sets .empty
      [("t", "\x7b\x7ba\x7d\x7d\x7b\x7bb\x7d\x7d\x7b\x7b!b\x7d\x7d\x7b\x7ba\x7d\x7d"),
        ("u", "\x7b\x7b_o\x7d\x7d\x7b\x7ba\x7d\x7d")]
    let calls := [⟨.finish, Plan.commonName.later⟩, ⟨.start, Plan.commonName.first⟩,
      ⟨.start, Plan.commonName.later⟩, ⟨.finish, Plan.commonName.later⟩]
    (x.afterCalls calls).memo.generated =
      [⟨0, "a", []⟩, ⟨1, "b", []⟩, ⟨1, "_o", []⟩] := by
  decide +kernel

end Expansion

end CommandTemplates
