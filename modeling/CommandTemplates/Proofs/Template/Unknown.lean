/-
Names that no set has.

The first pass rejects every placeholder with such a name, and what it rejects stays
rejected.  It does so only if there is a first pass: an expansion without sets reads
no template at all, and succeeds with every template as it is written.

* `Plan.message_of_unknown` — the message that the first pass leaves;
* `Expansion.result_of_unknown` — what is reported after both calls, with sets and
  without.
-/
import CommandTemplates.Proofs.Template.Independence
import CommandTemplates.Proofs.Template.Messages

namespace CommandTemplates

namespace Plan

variable {plan : Plan} {p : Placeholder} {template : String} {k : Nat}

theorem firstWith?_eq_none_iff {name : String} {sets : List VariableSet} :
    firstWith? name sets = none ↔ ∀ s ∈ sets, s.contains name = false := by
  induction sets with
  | nil => simp [firstWith?]
  | cons s sets ih =>
    have hcontains : s.contains name = false ↔ s.get? name = none := by
      rw [← VariableSet.get?_isSome]
      cases s.get? name <;> simp
    rw [firstWith?, List.forall_mem_cons, hcontains]
    cases s.get? name with
    | none => simp [ih]
    | some v => simp

/-- The first pass leaves a message for a name that no set has, and the message stays. -/
theorem message_of_unknown (hp : p ∈ Placeholder.scan template) (hescaped : p.escaped = false)
    (hunknown : firstWith? p.name plan.sets = none) (hk : 0 < k) :
    misplaced p s!"unknown variable '{p.name}'" ∈ plan.errorsAfter template k := by
  have hfailure : plan.failure? 0 p = some (misplaced p s!"unknown variable '{p.name}'") := by
    simp [failure?, hescaped, hunknown]
  have hfirst : misplaced p s!"unknown variable '{p.name}'" ∈ plan.errorsIn 0 template :=
    List.mem_filterMap.2 ⟨p, hp, hfailure⟩
  rcases plan.errorsAfter_cases template k with ⟨i, -, hearlier, -, herrors⟩ | ⟨hnone, -⟩
  · have hzero : i = 0 := by
      by_contra hpos
      rw [hearlier 0 (by omega)] at hfirst
      exact List.not_mem_nil hfirst
    rw [herrors, hzero, List.mem_eraseDups]
    exact hfirst
  · rw [hnone 0 hk] at hfirst
    exact absurd hfirst List.not_mem_nil

end Plan

namespace Expansion

/-- What is reported after both calls of a target with an unescaped placeholder whose name no set
has.  With sets, the target has failed with a message about the name; without sets, it has succeeded
with its template for output. -/
theorem result_of_unknown (plan : Plan) {targets : List (String × String)}
    {key template : String} (hkey : (Dictionary.ofList targets).get? key = some template)
    {p : Placeholder} (hp : p ∈ Placeholder.scan template) (hescaped : p.escaped = false)
    (hunknown : ∀ s ∈ plan.sets, s.contains p.name = false) :
    ∃ r, ((ofTargets plan.sets plan.fallbacks targets).afterCalls
        [⟨.start, plan.first⟩, ⟨.finish, plan.later⟩]).result? key = some r ∧
      (plan.sets ≠ [] → r.succeeded = false ∧ r.content = none ∧
        Plan.misplaced p s!"unknown variable '{p.name}'" ∈ r.errors) ∧
      (plan.sets = [] → r.succeeded = true ∧ r.content = some template ∧ r.errors = []) := by
  refine ⟨_, result?_finished plan hkey, ?_, ?_⟩
  · intro hsets
    have hmessage := Plan.message_of_unknown hp hescaped (Plan.firstWith?_eq_none_iff.2 hunknown)
      (List.length_pos_iff.2 hsets)
    have hsome : plan.errorsAfter template plan.sets.length ≠ [] := List.ne_nil_of_mem hmessage
    exact ⟨by simp [Plan.resultAfter, hsome], by simp [Plan.resultAfter, hsome], hmessage⟩
  · intro hsets
    simp [Plan.resultAfter, hsets, Plan.errorsAfter, Plan.segmentsAfter, Segment.text]

theorem result_of_unknown_commonName :
    let template := "\x7b\x7ba\x7d\x7d\x7b\x7bx\x7d\x7d"
    let p : Placeholder := ⟨false, "x", [], ⟨5, 10⟩, "\x7b\x7bx\x7d\x7d"⟩
    let without : Plan := { Plan.commonName with sets := [] }
    (Dictionary.ofList [("t", template)]).get? "t" = some template ∧
      p ∈ Placeholder.scan template ∧ p.escaped = false ∧
      (∀ s ∈ Plan.commonName.sets, s.contains p.name = false) ∧
      (∃ r, ((ofTargets Plan.commonName.sets Plan.commonName.fallbacks
          [("t", template)]).afterCalls
          [⟨.start, Plan.commonName.first⟩, ⟨.finish, Plan.commonName.later⟩]).result? "t" =
            some r ∧
        r.succeeded = false ∧
        Plan.misplaced p s!"unknown variable '{p.name}'" ∈ r.errors) ∧
      ∃ r, ((ofTargets [] without.fallbacks [("t", template)]).afterCalls
          [⟨.start, without.first⟩, ⟨.finish, without.later⟩]).result? "t" = some r ∧
        r.succeeded = true := by
  intro template p without
  have hkey : (Dictionary.ofList [("t", template)]).get? "t" = some template := by decide
  have hp : p ∈ Placeholder.scan template := by decide +kernel
  have hunknown : ∀ s ∈ Plan.commonName.sets, s.contains p.name = false := by decide +kernel
  obtain ⟨r, hr, hrejected, -⟩ :=
    result_of_unknown Plan.commonName hkey hp rfl hunknown
  obtain ⟨hfailed, -, hmessage⟩ := hrejected (by simp [Plan.commonName])
  obtain ⟨r', hr', -, hkept⟩ := result_of_unknown without hkey hp rfl (by simp [without])
  exact ⟨hkey, hp, rfl, hunknown, ⟨r, hr, hfailed, hmessage⟩, r', hr', (hkept rfl).1⟩

/-- Without sets an expansion succeeds on a name that it cannot know. -/
theorem succeeded_without_sets :
    let template := "\x7b\x7bx\x7d\x7d"
    let x := ofTargets [] .empty [("t", template)]
    let calls := [⟨.start, Plan.commonName.first⟩, ⟨.finish, Plan.commonName.later⟩]
    (∃ p ∈ Placeholder.scan template, p.escaped = false ∧ p.name = "x") ∧
      (x.afterCalls calls).result? "t" = some ⟨template, some template, true, []⟩ ∧
      (x.afterCalls calls).phase = .succeeded := by
  decide +kernel

end Expansion

end CommandTemplates
