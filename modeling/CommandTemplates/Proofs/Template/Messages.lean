/-
The messages of an expansion are exact.

A target has the messages of the first pass that leaves any, in the order of the
placeholders in its template, each message once.  A message about how a placeholder
is written names the byte of the template at which the placeholder stands, whatever
was put before it and whichever pass finds the mistake.

* `Plan.errorsAfter_cases` — which pass the messages come from;
* `Plan.failure?_cases` — what a message can be about;
* `Plan.errors_eq_errorsIn` — what an expansion shows after any number of passes, and
  after each of the two calls.
-/
import CommandTemplates.Proofs.Template.Stage
import CommandTemplates.Variable.Canned

namespace CommandTemplates

/-- The text of a placeholder stands where its span says. -/
theorem Placeholder.slice?_span {text : String} {p : Placeholder} (hp : p ∈ Placeholder.scan text) :
    Utf8.slice? p.span.start p.span.stop text.toList = some p.source.toList := by
  have hwords : Placeholder.LeftmostWords 0 text.toList (Placeholder.scan text) :=
    Placeholder.leftmostWords_iff.2 rfl
  obtain ⟨before, d, rest, htext, rfl⟩ := hwords.exists_derivation hp
  rw [Nat.zero_add, htext, d.toList_source]
  exact Utf8.slice?_append before d.written rest

/-- An error that no default stands in for is that of the variable. -/
theorem Fallback.eq_of_apply {fallback : Option Fallback}
    {result : Except VariableError String} {e : VariableError}
    (h : Fallback.apply fallback result = .error e) : result = .error e := by
  cases result with
  | ok text => simp [Fallback.apply] at h
  | error e' =>
    cases fallback with
    | none => simpa [Fallback.apply] using h
    | some fallback => cases fallback <;> simp_all [Fallback.apply]

namespace Plan

variable {plan : Plan} {k : Nat} {template : String} {targets : List (String × String)}
  {x : Expansion}

/-- A message that names a placeholder and the byte at which its text stands in the template. -/
def Locates (template message : String) : Prop :=
  ∃ p ∈ Placeholder.scan template, ∃ fault, message = misplaced p fault ∧
    Utf8.slice? p.span.start p.span.stop template.toList = some p.source.toList

/-- A message that a variable of the template gives for want of a value. -/
def LacksValue (plan : Plan) (template message : String) : Prop :=
  ∃ p ∈ Placeholder.scan template, ∃ i v arguments e,
    p.escaped = false ∧ firstWith? p.name plan.sets = some (i, v) ∧
      Arguments.bind p.name v.parameters p.arguments = .ok arguments ∧
      v.resolve arguments (plan.context i) = .error e ∧ message = VariableError.message e

/-- The messages of a template are those of the first pass that leaves any. -/
theorem errorsAfter_cases (plan : Plan) (template : String) (k : Nat) :
    (∃ i < k, (∀ j < i, plan.errorsIn j template = []) ∧ plan.errorsIn i template ≠ [] ∧
        plan.errorsAfter template k = (plan.errorsIn i template).eraseDups) ∨
      ((∀ i < k, plan.errorsIn i template = []) ∧ plan.errorsAfter template k = []) := by
  induction k with
  | zero => exact .inr ⟨by simp, rfl⟩
  | succ k ih =>
    rw [errorsAfter]
    -- a template with messages keeps them; one without gets those of this pass
    rcases ih with ⟨i, hi, hearlier, hsome, herrors⟩ | ⟨hearlier, herrors⟩
    · have hfailed : ¬ plan.errorsAfter template k = [] := by
        rw [herrors, eraseDups_eq_nil]
        exact hsome
      rw [if_neg hfailed]
      exact .inl ⟨i, by omega, hearlier, hsome, herrors⟩
    · rw [if_pos herrors]
      by_cases hnow : plan.errorsIn k template = []
      · refine .inr ⟨?_, by rw [hnow]; rfl⟩
        intro i hi
        by_cases hk : i = k
        · rw [hk, hnow]
        · exact hearlier i (by omega)
      · exact .inl ⟨k, by omega, hearlier, hnow, rfl⟩

/-- A message is about how a placeholder is written, or about a variable without a value. -/
theorem failure?_cases {i : Nat} {p : Placeholder} {message : String}
    (h : plan.failure? i p = some message) :
    (∃ fault, message = misplaced p fault) ∨
      ∃ v arguments e, p.escaped = false ∧ firstWith? p.name plan.sets = some (i, v) ∧
        Arguments.bind p.name v.parameters p.arguments = .ok arguments ∧
        v.resolve arguments (plan.context i) = .error e ∧ message = VariableError.message e := by
  cases hescaped : p.escaped with
  | true =>
    rw [plan.failure?_escaped i hescaped] at h
    simp at h
  | false =>
    cases hfirst : firstWith? p.name plan.sets with
    | none =>
      by_cases hi : i = 0
      · simp only [failure?, hescaped, hfirst, hi, Bool.false_eq_true, if_false, if_true,
          Option.some.injEq] at h
        exact .inl ⟨_, h.symm⟩
      · simp [failure?, hescaped, hfirst, hi] at h
    | some found =>
      obtain ⟨j, v⟩ := found
      by_cases hj : j = i
      · subst hj
        rw [(settled?_of_answer hescaped hfirst (Nat.lt_succ_self j)).2] at h
        cases hbind : Arguments.bind p.name v.parameters p.arguments with
        | error e =>
          simp only [answer, hbind, Option.some.injEq] at h
          exact .inl ⟨e.message, h.symm⟩
        | ok arguments =>
          cases happly : Fallback.apply (plan.fallbacks.get? v.identifier)
              (v.resolve arguments (plan.context j)) with
          | ok text =>
            rw [answer_of_apply_ok hbind happly] at h
            simp at h
          -- a variable without a value is the one fault that is not a place in the template
          | error e =>
            rw [answer_of_apply_error hbind happly, Option.some.injEq] at h
            exact .inr ⟨v, arguments, e, rfl, rfl, hbind, Fallback.eq_of_apply happly, h.symm⟩
      · simp [failure?, hescaped, hfirst, hj] at h

theorem locates_or_lacksValue {i : Nat} {message : String}
    (h : message ∈ plan.errorsIn i template) :
    Locates template message ∨ plan.LacksValue template message := by
  obtain ⟨p, hp, hfailure⟩ := List.mem_filterMap.1 h
  rcases failure?_cases hfailure with ⟨fault, hfault⟩ | hvalue
  · exact .inl ⟨p, hp, fault, hfault, Placeholder.slice?_span hp⟩
  · exact .inr ⟨p, hp, i, hvalue⟩

/-- Whether an expansion shows for each target the messages that `k` passes have left. -/
def ShowsErrors (plan : Plan) (targets : List (String × String)) (k : Nat) (x : Expansion) :
    Prop :=
  ∀ key template, (Dictionary.ofList targets).get? key = some template →
    ∃ r, x.result? key = some r ∧ r.template = template ∧
      ((∃ i < k, (∀ j < i, plan.errorsIn j template = []) ∧ plan.errorsIn i template ≠ [] ∧
          r.errors = (plan.errorsIn i template).eraseDups) ∨
        ((∀ i < k, plan.errorsIn i template = []) ∧ r.errors = [])) ∧
      ∀ message ∈ r.errors, Locates template message ∨ plan.LacksValue template message

theorem Stage.showsErrors (h : plan.Stage targets k x) : plan.ShowsErrors targets k x := by
  intro key template hkey
  obtain ⟨t, ht, rfl, hdescribed⟩ := h.exists_target hkey
  have herrors : t.result.errors = plan.errorsAfter t.template k := hdescribed.errors
  refine ⟨t.result, by rw [Expansion.result?, ht]; rfl, rfl, ?_, ?_⟩
  · rw [herrors]
    exact errorsAfter_cases plan t.template k
  · intro message hmessage
    rw [herrors] at hmessage
    rcases errorsAfter_cases plan t.template k with ⟨i, -, -, -, hi⟩ | ⟨-, hnone⟩
    · rw [hi, List.mem_eraseDups] at hmessage
      exact locates_or_lacksValue hmessage
    · rw [hnone] at hmessage
      simp at hmessage

/-- After any number of passes, and after each of the two calls, the messages of a target are those
of the first pass that leaves any, and each that is about the text of the template names the place
of that text. -/
theorem errors_eq_errorsIn (plan : Plan) (targets : List (String × String))
    (hsets : plan.sets ≠ []) :
    (∀ k ≤ plan.sets.length,
        plan.ShowsErrors targets k ((plan.expansion targets).afterPasses plan.context k)) ∧
      ∃ ok x, (plan.expansion targets).start plan.first = .ok (ok, x) ∧
        plan.ShowsErrors targets 1 x ∧
        ∃ ok' y, x.finish plan.later = .ok (ok', y) ∧
          plan.ShowsErrors targets plan.sets.length y := by
  refine forall_stages ?_ hsets
  intro k x hstage
  exact hstage.showsErrors

/-- Two sets, the second with a variable without a value and one that wants an argument. -/
def lateMistakes : Plan where
  sets := [.ofList [.canned "a" (some "A")],
    .ofList [.canned "f" none, .canned "g" (some "G") [⟨"n", .text, true⟩]]]
  fallbacks := .empty
  first := { environment := { root := ⟨"/"⟩, now := ⟨0, 0, 0⟩ } }
  later := { environment := { root := ⟨"/"⟩, now := ⟨0, 0, 0⟩ } }

theorem errors_eq_errorsIn_lateMistakes :
    let targets := [("t", "é\x7b\x7ba\x7d\x7d\x7b\x7bf\x7d\x7d\x7b\x7bg\x7d\x7d" ++
      "\x7b\x7bf\x7d\x7d"), ("u", "\x7b\x7bh\x7d\x7d\x7b\x7bf\x7d\x7d")]
    lateMistakes.sets ≠ [] ∧
      (∀ k ≤ lateMistakes.sets.length, lateMistakes.ShowsErrors targets k
        ((lateMistakes.expansion targets).afterPasses lateMistakes.context k)) ∧
      (∃ ok x, (lateMistakes.expansion targets).start lateMistakes.first = .ok (ok, x) ∧
        lateMistakes.ShowsErrors targets 1 x ∧
        ∃ ok' y, x.finish lateMistakes.later = .ok (ok', y) ∧
          lateMistakes.ShowsErrors targets lateMistakes.sets.length y) ∧
      ((lateMistakes.expansion targets).afterPasses lateMistakes.context 2).errors =
        ["\x7b\x7bf\x7d\x7d: fake failure",
          "\x7b\x7bg\x7d\x7d at position 12: \x7b\x7bg\x7d\x7d requires argument 'n'",
          "\x7b\x7bh\x7d\x7d at position 0: unknown variable 'h'"] := by
  intro targets
  have hsets : lateMistakes.sets ≠ [] := by simp [lateMistakes]
  obtain ⟨hpasses, hcalls⟩ := errors_eq_errorsIn lateMistakes targets hsets
  refine ⟨hsets, hpasses, hcalls, ?_⟩
  decide +kernel

end Plan

end CommandTemplates
