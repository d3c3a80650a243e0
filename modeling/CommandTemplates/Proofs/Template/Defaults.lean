/-
What a default value can change.

A default value is looked up under the identifier of a variable that fails.  Defaults
that differ at one identifier make the same of every placeholder whose variable has
another one, and so report the same of every template without a placeholder for it.

* `Plan.Concerns` — a placeholder whose variable has an identifier;
* `Plan.failure?_withFallbacks`, `Plan.settled?_withFallbacks` — other placeholders get
  the same message or the same text;
* `Expansion.result?_withFallbacks` — what is reported of a template without such
  placeholders.
-/
import CommandTemplates.Proofs.Template.Independence

namespace CommandTemplates

namespace Plan

variable {plan : Plan} {fallbacks : SortedMap Fallback} {identifier : String} {p : Placeholder}
  {template : String}

/-- The plan with other defaults. -/
def withFallbacks (plan : Plan) (fallbacks : SortedMap Fallback) : Plan := { plan with fallbacks }

/-- Whether some defaults differ from those of a plan at one identifier at most. -/
def AgreesBut (plan : Plan) (identifier : String) (fallbacks : SortedMap Fallback) : Prop :=
  ∀ other, other ≠ identifier → fallbacks.get? other = plan.fallbacks.get? other

/-- Whether a placeholder asks for a variable with an identifier. -/
def Concerns (plan : Plan) (identifier : String) (p : Placeholder) : Prop :=
  p.escaped = false ∧
    ∃ i v, firstWith? p.name plan.sets = some (i, v) ∧ v.identifier = identifier

/-- Whether two plans make something different of a placeholder in some pass. -/
def Differ (plan plan' : Plan) (p : Placeholder) : Prop :=
  (∃ i, plan.failure? i p ≠ plan'.failure? i p) ∨
    ∃ k text, ¬ (plan.Replaced k p text ↔ plan'.Replaced k p text)

theorem answer_withFallbacks (h : plan.AgreesBut identifier fallbacks) {v : Variable}
    (hv : v.identifier ≠ identifier) (i : Nat) (p : Placeholder) :
    (plan.withFallbacks fallbacks).answer i v p = plan.answer i v p := by
  have hcontext : (plan.withFallbacks fallbacks).context i = plan.context i := rfl
  have hlookup : (plan.withFallbacks fallbacks).fallbacks.get? v.identifier =
      plan.fallbacks.get? v.identifier := h v.identifier hv
  simp only [answer, hcontext, hlookup]

/-- A placeholder with another variable gets the same message. -/
theorem failure?_withFallbacks (h : plan.AgreesBut identifier fallbacks)
    (hp : ¬ plan.Concerns identifier p) (i : Nat) :
    (plan.withFallbacks fallbacks).failure? i p = plan.failure? i p := by
  have hsets : (plan.withFallbacks fallbacks).sets = plan.sets := rfl
  cases hescaped : p.escaped with
  | true => rw [failure?_escaped _ i hescaped, failure?_escaped _ i hescaped]
  | false =>
    cases hfirst : firstWith? p.name plan.sets with
    | none => simp only [failure?, hsets, hescaped, hfirst]
    | some found =>
      obtain ⟨j, v⟩ := found
      have hv : v.identifier ≠ identifier := fun heq => hp ⟨hescaped, j, v, hfirst, heq⟩
      simp only [failure?, hsets, hescaped, hfirst, answer_withFallbacks h hv]

/-- A placeholder with another variable gets the same text. -/
theorem settled?_withFallbacks (h : plan.AgreesBut identifier fallbacks)
    (hp : ¬ plan.Concerns identifier p) (k : Nat) :
    (plan.withFallbacks fallbacks).settled? k p = plan.settled? k p := by
  have hsets : (plan.withFallbacks fallbacks).sets = plan.sets := rfl
  cases hescaped : p.escaped with
  | true => simp only [settled?, hescaped, if_true]
  | false =>
    cases hfirst : firstWith? p.name plan.sets with
    | none => simp only [settled?, hsets, hescaped, hfirst]
    | some found =>
      obtain ⟨j, v⟩ := found
      have hv : v.identifier ≠ identifier := fun heq => hp ⟨hescaped, j, v, hfirst, heq⟩
      simp only [settled?, hsets, hescaped, hfirst, answer_withFallbacks h hv]

/-- The text that stands for a placeholder is the same if what the plan looks up for it is. -/
theorem Replaced.withFallbacks {k : Nat} {text : String} (hreplaced : plan.Replaced k p text)
    (h : plan.AgreesBut identifier fallbacks) (hp : ¬ plan.Concerns identifier p) :
    (plan.withFallbacks fallbacks).Replaced k p text := by
  -- only the two cases with a default look at the defaults, and at another identifier
  have hlookup : ∀ {i v}, p.escaped = false → firstWith? p.name plan.sets = some (i, v) →
      fallbacks.get? v.identifier = plan.fallbacks.get? v.identifier := by
    intro i v hescaped hfirst
    exact h v.identifier fun heq => hp ⟨hescaped, i, v, hfirst, heq⟩
  cases hreplaced with
  | untouched hk => exact .untouched hk
  | escaped hk hescaped => exact .escaped hk hescaped
  | value hescaped hfirst hi hbind hresolve => exact .value hescaped hfirst hi hbind hresolve
  | emptyDefault hescaped hfirst hi hbind hresolve hfallback =>
    exact .emptyDefault hescaped hfirst hi hbind hresolve
      ((hlookup hescaped hfirst).trans hfallback)
  | textDefault hescaped hfirst hi hbind hresolve hfallback =>
    exact .textDefault hescaped hfirst hi hbind hresolve ((hlookup hescaped hfirst).trans hfallback)
  | waiting hescaped hfirst hk => exact .waiting hescaped hfirst hk

/-- Defaults that differ at one identifier make something different only of a placeholder whose
variable has it. -/
theorem concerns_of_differ (h : plan.AgreesBut identifier fallbacks)
    (hdiffer : plan.Differ (plan.withFallbacks fallbacks) p) : plan.Concerns identifier p := by
  by_contra hp
  rcases hdiffer with ⟨i, hfailure⟩ | ⟨k, text, hreplaced⟩
  · exact hfailure (failure?_withFallbacks h hp i).symm
  · have hback : (plan.withFallbacks fallbacks).AgreesBut identifier plan.fallbacks :=
      fun other hother => (h other hother).symm
    exact hreplaced ⟨fun hreplaced => hreplaced.withFallbacks h hp,
      fun hreplaced => hreplaced.withFallbacks hback hp⟩

/-! ### Whole templates -/

theorem segments_congr {settled? settled?' : Placeholder → Option String}
    {pieces : List (List Char × Placeholder)}
    (h : ∀ piece ∈ pieces, settled? piece.2 = settled?' piece.2) (tail held : List Char)
    (start : Nat) :
    segments settled? tail held start pieces = segments settled?' tail held start pieces := by
  induction pieces generalizing held start with
  | nil => rfl
  | cons piece pieces ih =>
    obtain ⟨before, p⟩ := piece
    have hrest := ih fun piece hpiece => h piece (List.mem_cons_of_mem _ hpiece)
    simp only [segments, h (before, p) List.mem_cons_self, hrest]

theorem errorsIn_withFallbacks (h : plan.AgreesBut identifier fallbacks)
    (htemplate : ∀ p ∈ Placeholder.scan template, ¬ plan.Concerns identifier p) (i : Nat) :
    (plan.withFallbacks fallbacks).errorsIn i template = plan.errorsIn i template :=
  List.filterMap_congr fun p hp => failure?_withFallbacks h (htemplate p hp) i

theorem errorsAfter_withFallbacks (h : plan.AgreesBut identifier fallbacks)
    (htemplate : ∀ p ∈ Placeholder.scan template, ¬ plan.Concerns identifier p) (k : Nat) :
    (plan.withFallbacks fallbacks).errorsAfter template k = plan.errorsAfter template k := by
  induction k with
  | zero => rfl
  | succ k ih => rw [errorsAfter, errorsAfter, ih, errorsIn_withFallbacks h htemplate]

theorem segmentsAfter_withFallbacks (h : plan.AgreesBut identifier fallbacks)
    (htemplate : ∀ p ∈ Placeholder.scan template, ¬ plan.Concerns identifier p) (k : Nat) :
    (plan.withFallbacks fallbacks).segmentsAfter template k = plan.segmentsAfter template k := by
  cases k with
  | zero => rfl
  | succ k =>
    refine segments_congr ?_ _ _ _
    intro piece hpiece
    exact settled?_withFallbacks h (htemplate piece.2 (mem_scan_of_mem_cut hpiece)) (k + 1)

theorem resultAfter_withFallbacks (h : plan.AgreesBut identifier fallbacks)
    (htemplate : ∀ p ∈ Placeholder.scan template, ¬ plan.Concerns identifier p) (k : Nat)
    (finished : Bool) :
    (plan.withFallbacks fallbacks).resultAfter template k finished =
      plan.resultAfter template k finished := by
  simp only [resultAfter, errorsAfter_withFallbacks h htemplate,
    segmentsAfter_withFallbacks h htemplate]

end Plan

namespace Expansion

/-- Defaults that differ at one identifier report the same, after any calls, of every target in
whose template no placeholder asks for a variable with the identifier. -/
theorem result?_withFallbacks (plan : Plan) {fallbacks : SortedMap Fallback} {identifier : String}
    (h : plan.AgreesBut identifier fallbacks) {targets : List (String × String)}
    {key template : String} (hkey : (Dictionary.ofList targets).get? key = some template)
    (htemplate : ∀ p ∈ Placeholder.scan template, ¬ plan.Concerns identifier p)
    (calls : List Call) :
    ((ofTargets plan.sets fallbacks targets).afterCalls calls).result? key =
      ((ofTargets plan.sets plan.fallbacks targets).afterCalls calls).result? key := by
  obtain ⟨first, later, k, hstage⟩ := exists_stage calls plan.sets.length
  let finished : Bool := decide (Call.Over ([] ++ calls))
  have hover : Call.Over ([] ++ calls) ↔ finished = true := (decide_eq_true_iff).symm
  have hresult : ∀ defaults,
      ((ofTargets plan.sets defaults targets).afterCalls calls).result? key =
        some ((Plan.mk plan.sets defaults first later).resultAfter template k finished) := by
    intro defaults
    have hsound := ((lives_ofTargets plan.sets defaults targets).afterCalls calls).targets
    rw [hover] at hsound
    exact (hstage plan.sets defaults targets rfl).result?_eq hsound hkey
  -- which placeholders are concerned does not depend on the contexts
  let called : Plan := ⟨plan.sets, plan.fallbacks, first, later⟩
  have hcalled : called.AgreesBut identifier fallbacks := h
  have hfree : ∀ p ∈ Placeholder.scan template, ¬ called.Concerns identifier p := htemplate
  have hsame := Plan.resultAfter_withFallbacks hcalled hfree k finished
  rw [hresult, hresult]
  exact congrArg some hsame

end Expansion

end CommandTemplates
