/-
What an expansion makes of each placeholder, stated without its passes.

A plan has the sets of variables, the defaults, and the contexts in which the
variables are asked.  A placeholder belongs to the first set that has its name, and
the pass of that set decides what becomes of it.

* `Plan.failure?` — the message that a pass leaves for a placeholder;
* `Plan.Replaced` — the text that stands for a placeholder after some passes;
* `Plan.settled?` — the same text as a function, for the proofs about passes;
* `Plan.replaced_iff` — the two agree as long as nothing has failed.
-/
import CommandTemplates.Template.Expansion

namespace CommandTemplates

/-- The first of some sets that has a variable of a name: its position, and the variable. -/
def firstWith? (name : String) : List VariableSet → Option (Nat × Variable)
  | [] => none
  | s :: sets =>
    match s.get? name with
    | some v => some (0, v)
    | none => (firstWith? name sets).map fun found => (found.1 + 1, found.2)

/-- What an expansion goes by. -/
structure Plan where
  sets : List VariableSet
  fallbacks : SortedMap Fallback
  /-- The context of the first pass. -/
  first : Context
  /-- The context of all passes after it. -/
  later : Context

namespace Plan

/-- The context of a pass. -/
def context (plan : Plan) (i : Nat) : Context := if i = 0 then plan.first else plan.later

/-- The wording of a mistake in a placeholder. -/
def misplaced (p : Placeholder) (fault : String) : String :=
  s!"{p.source} at position {p.span.start}: {fault}"

/-- What a placeholder gets from a variable in pass `i`: the value, or the default of the variable
if there is no value, or else an error message. -/
def answer (plan : Plan) (i : Nat) (v : Variable) (p : Placeholder) : Except String String :=
  match Arguments.bind p.name v.parameters p.arguments with
  | .error e => .error (misplaced p e.message)
  | .ok arguments =>
    match v.resolve arguments (plan.context i), plan.fallbacks.get? v.identifier with
    | .ok text, _ => .ok text
    | .error _, some .emptyValue => .ok ""
    | .error _, some (.value text) => .ok text
    | .error e, some .showErrors | .error e, none => .error e.message

/-- The error message that pass `i` leaves for a placeholder: pass 0 for an unknown name, the pass
of the first set with the name for a variable without an answer. -/
def failure? (plan : Plan) (i : Nat) (p : Placeholder) : Option String :=
  if p.escaped then none
  else
    match firstWith? p.name plan.sets with
    | none => if i = 0 then some (misplaced p s!"unknown variable '{p.name}'") else none
    | some (j, v) =>
      if j = i then
        match plan.answer i v p with
        | .ok _ => none
        | .error message => some message
      else none

/-- The error messages that pass `i` leaves for a template, in the order of the placeholders. -/
def errorsIn (plan : Plan) (i : Nat) (template : String) : List String :=
  (Placeholder.scan template).filterMap (plan.failure? i)

/-- The text that stands for a placeholder after `k` passes. -/
inductive Replaced (plan : Plan) (k : Nat) (p : Placeholder) : String → Prop
  /-- Before the first pass: the placeholder itself. -/
  | untouched : k = 0 → Replaced plan k p p.source
  | escaped : 0 < k → p.escaped = true → Replaced plan k p p.unescaped
  /-- The value that the variable of the first set with the name has in the pass of the set. -/
  | value {i : Nat} {v : Variable} {arguments : Arguments} {text : String} :
    p.escaped = false → firstWith? p.name plan.sets = some (i, v) → i < k →
    Arguments.bind p.name v.parameters p.arguments = .ok arguments →
    v.resolve arguments (plan.context i) = .ok text → Replaced plan k p text
  /-- Nothing, where that is the default of a variable without a value. -/
  | emptyDefault {i : Nat} {v : Variable} {arguments : Arguments} {e : VariableError} :
    p.escaped = false → firstWith? p.name plan.sets = some (i, v) → i < k →
    Arguments.bind p.name v.parameters p.arguments = .ok arguments →
    v.resolve arguments (plan.context i) = .error e →
    plan.fallbacks.get? v.identifier = some .emptyValue → Replaced plan k p ""
  /-- The text that is the default of a variable without a value. -/
  | textDefault {i : Nat} {v : Variable} {arguments : Arguments} {e : VariableError}
    {text : String} :
    p.escaped = false → firstWith? p.name plan.sets = some (i, v) → i < k →
    Arguments.bind p.name v.parameters p.arguments = .ok arguments →
    v.resolve arguments (plan.context i) = .error e →
    plan.fallbacks.get? v.identifier = some (.value text) → Replaced plan k p text
  /-- The placeholder itself, until the pass of its set. -/
  | waiting {i : Nat} {v : Variable} :
    p.escaped = false → firstWith? p.name plan.sets = some (i, v) → k ≤ i →
    Replaced plan k p p.source

/-! ### The first set with a name -/

theorem get?_of_firstWith? {name : String} {sets : List VariableSet} {i : Nat} {v : Variable}
    (h : firstWith? name sets = some (i, v)) :
    ∃ s, sets[i]? = some s ∧ s.get? name = some v := by
  induction sets generalizing i with
  | nil => simp [firstWith?] at h
  | cons s sets ih =>
    rw [firstWith?] at h
    split at h
    · next w hget =>
      simp only [Option.some.injEq, Prod.mk.injEq] at h
      obtain ⟨rfl, rfl⟩ := h
      exact ⟨s, rfl, hget⟩
    · obtain ⟨⟨j, w⟩, hfirst, heq⟩ := Option.map_eq_some_iff.1 h
      simp only [Prod.mk.injEq] at heq
      obtain ⟨rfl, rfl⟩ := heq
      exact ih hfirst

/-- A set with the name is the first one or comes after it. -/
theorem exists_firstWith? {name : String} {sets : List VariableSet} {i : Nat} {s : VariableSet}
    {v : Variable} (hs : sets[i]? = some s) (hv : s.get? name = some v) :
    ∃ j w, firstWith? name sets = some (j, w) ∧ j ≤ i ∧ (j = i → w = v) := by
  induction sets generalizing i with
  | nil => simp at hs
  | cons t sets ih =>
    rw [firstWith?]
    cases ht : t.get? name with
    | some w =>
      refine ⟨0, w, rfl, Nat.zero_le i, ?_⟩
      rintro rfl
      simp only [List.getElem?_cons_zero, Option.some.injEq] at hs
      rw [hs, hv, Option.some.injEq] at ht
      exact ht.symm
    | none =>
      cases i with
      | zero =>
        simp only [List.getElem?_cons_zero, Option.some.injEq] at hs
        rw [hs, hv] at ht
        exact absurd ht (by simp)
      | succ i =>
        obtain ⟨j, w, hfirst, hle, heq⟩ := ih (by simpa using hs)
        refine ⟨j + 1, w, by simp [hfirst], by omega, ?_⟩
        intro hj
        exact heq (by omega)

theorem get?_foldl_merge (name : String) (sets : List VariableSet) (s : VariableSet) :
    (sets.foldl VariableSet.merge s).get? name =
      (s.get? name).or ((firstWith? name sets).map Prod.snd) := by
  induction sets generalizing s with
  | nil => simp [firstWith?]
  | cons t sets ih =>
    rw [List.foldl_cons, ih, VariableSet.get?_merge, Option.or_assoc, firstWith?]
    cases t.get? name with
    | some v => rfl
    | none => simp [Option.map_map, Function.comp_def]

/-- The variables that are known to some pass. -/
def known (plan : Plan) : VariableSet := plan.sets.foldl VariableSet.merge .empty

theorem contains_known (plan : Plan) (name : String) :
    plan.known.contains name = (firstWith? name plan.sets).isSome := by
  rw [← VariableSet.get?_isSome, known, get?_foldl_merge]
  cases firstWith? name plan.sets <;> rfl

/-! ### What is settled after some passes -/

/-- The text that the first `k` passes put in place of a placeholder, if they do. -/
def settled? (plan : Plan) (k : Nat) (p : Placeholder) : Option String :=
  if k = 0 then none
  else if p.escaped then some p.unescaped
  else
    match firstWith? p.name plan.sets with
    | none => none
    | some (i, v) => if i < k then (plan.answer i v p).toOption else none

/-- The text of a placeholder after `k` passes. -/
def shown (plan : Plan) (k : Nat) (p : Placeholder) : String := (plan.settled? k p).getD p.source

@[simp] theorem settled?_zero (plan : Plan) (p : Placeholder) : plan.settled? 0 p = none := rfl

theorem settled?_escaped (plan : Plan) (k : Nat) {p : Placeholder} (h : p.escaped = true) :
    plan.settled? (k + 1) p = some p.unescaped := by
  simp [settled?, h]

theorem failure?_escaped (plan : Plan) (i : Nat) {p : Placeholder} (h : p.escaped = true) :
    plan.failure? i p = none := by
  simp [failure?, h]

/-- What is settled stays as it is, and no later pass complains about it. -/
theorem settled?_succ {plan : Plan} {k : Nat} {p : Placeholder} {text : String}
    (h : plan.settled? k p = some text) :
    plan.settled? (k + 1) p = some text ∧ plan.failure? k p = none := by
  unfold settled? at h
  split at h
  · simp at h
  · split at h
    · next hescaped =>
      rw [plan.settled?_escaped k hescaped, plan.failure?_escaped k hescaped]
      exact ⟨h, rfl⟩
    · next hescaped =>
      split at h
      · simp at h
      · next i v hfirst =>
        split at h
        · next hi =>
          -- it was settled by the pass of its set, which is none of the later ones
          have hne : ¬ i = k := by omega
          have hlt : i < k + 1 := by omega
          simp [settled?, failure?, hescaped, hfirst, hne, hlt, h]
        · simp at h

/-- A variable is not settled before the pass of its set. -/
theorem settled?_waiting {plan : Plan} {k i : Nat} {p : Placeholder} {v : Variable}
    (hescaped : p.escaped = false) (hfirst : firstWith? p.name plan.sets = some (i, v))
    (hk : k ≤ i) : plan.settled? k p = none := by
  have hnot : ¬ i < k := by omega
  simp [settled?, hescaped, hfirst, hnot]

/-- In the pass of its set a variable is settled, or there is a message. -/
theorem settled?_of_answer {plan : Plan} {i : Nat} {p : Placeholder} {v : Variable}
    (hescaped : p.escaped = false) (hfirst : firstWith? p.name plan.sets = some (i, v))
    {k : Nat} (hk : i < k) :
    plan.settled? k p = (plan.answer i v p).toOption ∧
      plan.failure? i p = match plan.answer i v p with
        | .ok _ => none
        | .error message => some message := by
  have hne : ¬ k = 0 := by omega
  simp [settled?, failure?, hescaped, hfirst, hk, hne]

/-- A placeholder that is neither settled nor reported by the first `k` passes waits for a later
one. -/
theorem le_of_settled?_eq_none {plan : Plan} {k i : Nat} {p : Placeholder} {v : Variable}
    (hescaped : p.escaped = false) (hfirst : firstWith? p.name plan.sets = some (i, v))
    (hpending : plan.settled? k p = none) (hearlier : ∀ j < k, plan.failure? j p = none) :
    k ≤ i := by
  by_cases hi : i < k
  · -- in the pass of its set it would have been settled or reported
    obtain ⟨hsettled, hfailure⟩ := settled?_of_answer hescaped hfirst hi
    rw [hearlier i hi] at hfailure
    rw [hpending] at hsettled
    cases hanswer : plan.answer i v p with
    | ok text => simp [hanswer, Except.toOption] at hsettled
    | error message => simp [hanswer] at hfailure
  · omega

/-- What the first passes have no message about is settled by them, unless its variable is one of a
later pass. -/
theorem exists_settled {plan : Plan} {k : Nat} {p : Placeholder}
    (hnone : ∀ i < k + 1, plan.failure? i p = none)
    (hearly : p.escaped = false → ∀ i v, firstWith? p.name plan.sets = some (i, v) → i < k + 1) :
    ∃ text, plan.settled? (k + 1) p = some text := by
  cases hescaped : p.escaped with
  | true => exact ⟨p.unescaped, plan.settled?_escaped k hescaped⟩
  | false =>
    cases hfirst : firstWith? p.name plan.sets with
    | none =>
      have hunknown := hnone 0 (Nat.succ_pos k)
      simp [failure?, hescaped, hfirst] at hunknown
    | some found =>
      obtain ⟨i, v⟩ := found
      have hi : i < k + 1 := hearly hescaped i v hfirst
      cases hsettled : plan.settled? (k + 1) p with
      | some text => exact ⟨text, rfl⟩
      | none =>
        have hle := le_of_settled?_eq_none hescaped hfirst hsettled hnone
        omega

/-- The answer of a variable whose arguments suit it. -/
theorem answer_of_bind {plan : Plan} {i : Nat} {v : Variable} {p : Placeholder}
    {arguments : Arguments} (h : Arguments.bind p.name v.parameters p.arguments = .ok arguments) :
    plan.answer i v p =
      (Fallback.apply (plan.fallbacks.get? v.identifier)
        (v.resolve arguments (plan.context i))).mapError VariableError.message := by
  simp only [answer, h]
  cases v.resolve arguments (plan.context i) with
  | ok text => rfl
  | error e =>
    cases plan.fallbacks.get? v.identifier with
    | none => rfl
    | some fallback => cases fallback <;> rfl

/-- A variable without parameters takes no arguments. -/
theorem answer_of_surplus {plan : Plan} {i : Nat} {v : Variable} {p : Placeholder}
    (hparameters : v.parameters = []) (harguments : p.arguments ≠ []) :
    plan.answer i v p =
      .error (misplaced p (ArgumentError.tooMany p.name 0 p.arguments.length).message) := by
  have hbind : Arguments.bind p.name v.parameters p.arguments =
      .error (.tooMany p.name 0 p.arguments.length) := by
    rw [hparameters, Arguments.bind, List.length_nil,
      if_pos (List.length_pos_iff.2 harguments)]
  rw [answer, hbind]

theorem answer_of_apply_ok {plan : Plan} {i : Nat} {v : Variable} {p : Placeholder}
    {arguments : Arguments} {text : String}
    (hbind : Arguments.bind p.name v.parameters p.arguments = .ok arguments)
    (h : Fallback.apply (plan.fallbacks.get? v.identifier)
      (v.resolve arguments (plan.context i)) = .ok text) :
    plan.answer i v p = .ok text := by
  rw [answer_of_bind hbind, h]
  rfl

theorem answer_of_apply_error {plan : Plan} {i : Nat} {v : Variable} {p : Placeholder}
    {arguments : Arguments} {e : VariableError}
    (hbind : Arguments.bind p.name v.parameters p.arguments = .ok arguments)
    (h : Fallback.apply (plan.fallbacks.get? v.identifier)
      (v.resolve arguments (plan.context i)) = .error e) :
    plan.answer i v p = .error e.message := by
  rw [answer_of_bind hbind, h]
  rfl

theorem replaced_of_answer {plan : Plan} {k i : Nat} {p : Placeholder} {v : Variable}
    {text : String} (hescaped : p.escaped = false)
    (hfirst : firstWith? p.name plan.sets = some (i, v)) (hi : i < k)
    (h : plan.answer i v p = .ok text) : plan.Replaced k p text := by
  unfold answer at h
  split at h
  · simp at h
  · next arguments hbind =>
    split at h
    · next hresolve =>
      simp only [Except.ok.injEq] at h
      subst h
      exact .value hescaped hfirst hi hbind hresolve
    · next hresolve hfallback =>
      simp only [Except.ok.injEq] at h
      subst h
      exact .emptyDefault hescaped hfirst hi hbind hresolve hfallback
    · next hresolve hfallback =>
      simp only [Except.ok.injEq] at h
      subst h
      exact .textDefault hescaped hfirst hi hbind hresolve hfallback
    · simp at h
    · simp at h

/-- As long as no pass has left a message for a placeholder, what is shown for it is what stands
for it. -/
theorem replaced_shown {plan : Plan} {k : Nat} {p : Placeholder}
    (h : ∀ i < k, plan.failure? i p = none) : plan.Replaced k p (plan.shown k p) := by
  cases k with
  | zero => exact .untouched rfl
  | succ k =>
    cases hescaped : p.escaped with
    | true =>
      rw [shown, plan.settled?_escaped k hescaped]
      exact .escaped (Nat.succ_pos k) hescaped
    | false =>
      cases hfirst : firstWith? p.name plan.sets with
      | none =>
        have hunknown := h 0 (Nat.succ_pos k)
        simp [failure?, hescaped, hfirst] at hunknown
      | some found =>
        obtain ⟨i, v⟩ := found
        by_cases hi : i < k + 1
        · obtain ⟨hsettled, hfailure⟩ := settled?_of_answer hescaped hfirst hi
          rw [h i hi] at hfailure
          cases hanswer : plan.answer i v p with
          | error message =>
            rw [hanswer] at hfailure
            simp at hfailure
          | ok text =>
            rw [shown, hsettled, hanswer]
            exact replaced_of_answer hescaped hfirst hi hanswer
        · have hk : k + 1 ≤ i := by omega
          rw [shown, settled?_waiting hescaped hfirst hk]
          exact .waiting hescaped hfirst hk

/-- What stands for a placeholder is what is shown for it. -/
theorem Replaced.eq_shown {plan : Plan} {k : Nat} {p : Placeholder} {text : String}
    (h : plan.Replaced k p text) : text = plan.shown k p := by
  cases h with
  | untouched hk =>
    subst hk
    rfl
  | escaped hk hescaped =>
    obtain ⟨n, rfl⟩ := Nat.exists_eq_add_one_of_ne_zero (Nat.ne_of_gt hk)
    rw [shown, plan.settled?_escaped n hescaped]
    rfl
  | value hescaped hfirst hi hbind hresolve =>
    rw [shown, (settled?_of_answer hescaped hfirst hi).1, answer_of_bind hbind, hresolve]
    rfl
  | emptyDefault hescaped hfirst hi hbind hresolve hfallback =>
    rw [shown, (settled?_of_answer hescaped hfirst hi).1, answer_of_bind hbind, hresolve,
      hfallback]
    rfl
  | textDefault hescaped hfirst hi hbind hresolve hfallback =>
    rw [shown, (settled?_of_answer hescaped hfirst hi).1, answer_of_bind hbind, hresolve,
      hfallback]
    rfl
  | waiting hescaped hfirst hk =>
    rw [shown, settled?_waiting hescaped hfirst hk]
    rfl

theorem replaced_iff {plan : Plan} {k : Nat} {p : Placeholder}
    (h : ∀ i < k, plan.failure? i p = none) (text : String) :
    plan.Replaced k p text ↔ text = plan.shown k p := by
  constructor
  · intro hreplaced
    exact hreplaced.eq_shown
  · rintro rfl
    exact replaced_shown h

end Plan

end CommandTemplates
