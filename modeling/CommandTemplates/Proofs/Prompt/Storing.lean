/-
The answers of a prompt are stored together or not at all.

A prompt is complete under some answers if no required field is left empty; a missing
answer is an empty one (`PromptConfig.answerAt`).

* `execute_of_reply` — what a run answers and leaves in the store, by the reply to its prompt;
* `complete_or_storesNothing` — either the answers are complete or nothing is stored;
* `get?_store_of_last`, `get?_store_of_forall_ne` — what a variable has afterwards;
* `execute_stores_all_or_nothing` — a run stores the answers of a complete prompt, the
  last one for each variable, and otherwise leaves the store as it was.
-/
import CommandTemplates.Proofs.Prompt.Exchange

namespace CommandTemplates

variable {σ : Type}

namespace PromptConfig

variable {prompt : PromptConfig} {answers : List String}

/-- The answer to the field at a position. -/
def answerAt (answers : List String) (i : Nat) : String := answers[i]?.getD ""

/-- Whether the field at a position is required and left empty. -/
def LeavesEmpty (prompt : PromptConfig) (answers : List String) (i : Nat) (field : PromptField) :
    Prop :=
  prompt.fields[i]? = some field ∧ field.required = true ∧ answerAt answers i = ""

/-- Whether every required field has an answer that is not empty. -/
def IsComplete (prompt : PromptConfig) (answers : List String) : Prop :=
  ∀ i field, ¬ prompt.LeavesEmpty answers i field

theorem getElem?_answered (prompt : PromptConfig) (answers : List String) (i : Nat) :
    (prompt.answered answers)[i]? =
      prompt.fields[i]?.map fun field => (field, answerAt answers i) := by
  rw [answered, List.getElem?_map, List.getElem?_zipIdx, Option.map_map]
  simp [Function.comp_def, answerAt]

theorem leavesEmpty_iff {i : Nat} {field : PromptField} :
    prompt.LeavesEmpty answers i field ↔
      (prompt.answered answers)[i]? = some (field, answerAt answers i) ∧
        isMissing (field, answerAt answers i) = true := by
  rw [getElem?_answered]
  simp only [LeavesEmpty, isMissing, Bool.and_eq_true, decide_eq_true_eq, Option.map_eq_some_iff,
    Prod.mk.injEq, and_true, exists_eq_right]

theorem find?_isMissing_eq_none_iff :
    (prompt.answered answers).find? isMissing = none ↔ prompt.IsComplete answers := by
  rw [List.find?_eq_none]
  constructor
  · intro h i field hempty
    obtain ⟨hfield, hmissing⟩ := leavesEmpty_iff.1 hempty
    exact h _ (List.mem_of_getElem? hfield) hmissing
  · intro h a ha hmissing
    obtain ⟨i, hi⟩ := List.mem_iff_getElem?.1 ha
    have hfield := hi
    rw [getElem?_answered, Option.map_eq_some_iff] at hfield
    obtain ⟨field, -, rfl⟩ := hfield
    exact h i field (leavesEmpty_iff.2 ⟨hi, hmissing⟩)

/-- The field that is found missing is the first that is required and left empty. -/
theorem exists_leavesEmpty_of_find? {a : PromptField × String}
    (h : (prompt.answered answers).find? isMissing = some a) :
    ∃ i, prompt.LeavesEmpty answers i a.1 ∧
      ∀ j field, j < i → ¬ prompt.LeavesEmpty answers j field := by
  obtain ⟨hmissing, i, hi, hget, hbefore⟩ := List.find?_eq_some_iff_getElem.1 h
  have hanswered := List.getElem?_eq_some_iff.2 ⟨hi, hget⟩
  have hfield := hanswered
  rw [getElem?_answered, Option.map_eq_some_iff] at hfield
  obtain ⟨field, -, rfl⟩ := hfield
  refine ⟨i, leavesEmpty_iff.2 ⟨hanswered, hmissing⟩, fun j field' hj hempty => ?_⟩
  obtain ⟨hfield', hmissing'⟩ := leavesEmpty_iff.1 hempty
  have hno := hbefore j hj
  rw [(List.getElem?_eq_some_iff.1 hfield').2, hmissing'] at hno
  simp at hno

end PromptConfig

namespace PromptPreaction

variable {channel : PromptChannel (StateM σ)} {values : ValueStore} {s : σ} {p : PromptPreaction}
  {prompt : PromptConfig}

/-- The runs that store nothing, with what they answer. -/
inductive StoresNothing (channel : PromptChannel (StateM σ)) (s : σ) (p : PromptPreaction) :
    Except PreactionError Bool → Prop
  | notFound : p.prompt = none → StoresNothing channel s p (.error (.promptNotFound p.promptId))
  | unreachable {prompt : PromptConfig} {e : PromptError} : p.prompt = some prompt →
    (channel.ask prompt s).1 = .error e → StoresNothing channel s p (.error (.channel e))
  | cancelled {prompt : PromptConfig} : p.prompt = some prompt →
    (channel.ask prompt s).1 = .ok none → StoresNothing channel s p (.ok false)
  /-- The error names the first field that is required and left empty. -/
  | incomplete {prompt : PromptConfig} {answers : List String} {i : Nat} {field : PromptField} :
    p.prompt = some prompt → (channel.ask prompt s).1 = .ok (some answers) →
    prompt.LeavesEmpty answers i field →
    (∀ j earlier, j < i → ¬ prompt.LeavesEmpty answers j earlier) →
    StoresNothing channel s p (.error (.requiredEmpty prompt.title field.label))

/-! ### One run -/

theorem execute_of_no_prompt (h : p.prompt = none) :
    (p.execute channel values s).1 = (.error (.promptNotFound p.promptId), values) := by
  simp only [execute, h]
  rfl

/-- What a run answers and leaves in the store, by the reply to its prompt. -/
theorem execute_of_reply (channel : PromptChannel (StateM σ)) (values : ValueStore) (s : σ)
    (h : p.prompt = some prompt) :
    (p.execute channel values s).1 =
      match (channel.ask prompt s).1 with
      | .error e => (.error (.channel e), values)
      | .ok none => (.ok false, values)
      | .ok (some answers) =>
        match (prompt.answered answers).find? isMissing with
        | some a => (.error (.requiredEmpty prompt.title a.1.label), values)
        | none => (.ok true, store values (Exchange.given ⟨prompt, .ok (some answers)⟩)) := by
  simp only [execute, h, bind, StateT.bind]
  obtain ⟨reply, s', hask⟩ : ∃ reply s', channel.ask prompt s = (reply, s') := ⟨_, _, rfl⟩
  rw [hask]
  match reply with
  | .error e => rfl
  | .ok none => rfl
  | .ok (some answers) =>
    simp only [assignments_answered]
    cases (prompt.answered answers).find? isMissing <;> rfl

theorem execute_of_complete {answers : List String} (h : p.prompt = some prompt)
    (hreply : (channel.ask prompt s).1 = .ok (some answers))
    (hcomplete : prompt.IsComplete answers) :
    (p.execute channel values s).1 =
      (.ok true, store values (Exchange.given ⟨prompt, .ok (some answers)⟩)) := by
  rw [execute_of_reply channel values s h, hreply]
  simp only [PromptConfig.find?_isMissing_eq_none_iff.2 hcomplete]

/-- A run has a prompt whose answers are complete, or it stores nothing. -/
theorem complete_or_storesNothing (channel : PromptChannel (StateM σ)) (values : ValueStore)
    (s : σ) (p : PromptPreaction) :
    (∃ prompt answers, p.prompt = some prompt ∧
        (channel.ask prompt s).1 = .ok (some answers) ∧ prompt.IsComplete answers) ∨
      ∃ answer, (p.execute channel values s).1 = (answer, values) ∧
        StoresNothing channel s p answer := by
  cases hprompt : p.prompt with
  | none => exact .inr ⟨_, execute_of_no_prompt hprompt, .notFound hprompt⟩
  | some prompt =>
    have hrun := execute_of_reply channel values s hprompt
    match hreply : (channel.ask prompt s).1 with
    | .error e =>
      rw [hreply] at hrun
      exact .inr ⟨_, hrun, .unreachable hprompt hreply⟩
    | .ok none =>
      rw [hreply] at hrun
      exact .inr ⟨_, hrun, .cancelled hprompt hreply⟩
    | .ok (some answers) =>
      rw [hreply] at hrun
      -- an empty answer to a required field is the only fault that answers can have
      cases hfind : (prompt.answered answers).find? isMissing with
      | none =>
        exact .inl ⟨prompt, answers, rfl, hreply,
          PromptConfig.find?_isMissing_eq_none_iff.1 hfind⟩
      | some a =>
        simp only [hfind] at hrun
        obtain ⟨i, hempty, hfirst⟩ := PromptConfig.exists_leavesEmpty_of_find? hfind
        exact .inr ⟨_, hrun, .incomplete hprompt hreply hempty hfirst⟩

theorem StoresNothing.ne_accepted {answer : Except PreactionError Bool}
    (h : StoresNothing channel s p answer) : answer ≠ .ok true := by
  cases h <;> simp

/-! ### What is stored -/

theorem get?_store_of_forall_ne {assigned : List (VariableId × String)} {id : VariableId}
    (h : ∀ a ∈ assigned, a.1 ≠ id) : (store values assigned).get? id = values.get? id := by
  have hnone : assigned.filter (fun a => a.1 = id) = [] := by
    rw [List.filter_eq_nil_iff]
    intro a ha hid
    exact h a ha (by simpa using hid)
  rw [get?_store, hnone]
  rfl

theorem get?_store_of_last {assigned : List (VariableId × String)} {i : Nat} {id : VariableId}
    {answer : String} (hi : assigned[i]? = some (id, answer))
    (hlater : ∀ j a, i < j → assigned[j]? = some a → a.1 ≠ id) :
    (store values assigned).get? id = some answer := by
  obtain ⟨hlt, hget⟩ := List.getElem?_eq_some_iff.1 hi
  -- the assignments up to this one, and those behind it, which are for other ids
  have hsplit : assigned = assigned.take (i + 1) ++ assigned.drop (i + 1) :=
    (List.take_append_drop (i + 1) assigned).symm
  have hafter : ∀ a ∈ assigned.drop (i + 1), a.1 ≠ id := by
    intro a ha
    obtain ⟨j, hj⟩ := List.mem_iff_getElem?.1 ha
    rw [List.getElem?_drop] at hj
    exact hlater (i + 1 + j) a (by omega) hj
  rw [hsplit, store_append, get?_store_of_forall_ne hafter, List.take_succ_eq_append_getElem hlt,
    hget, store_append]
  exact (Dictionary.get?_insert _ _ _ _).trans (if_pos rfl)

theorem getElem?_given (prompt : PromptConfig) (answers : List String) (i : Nat) :
    (Exchange.given ⟨prompt, .ok (some answers)⟩)[i]? =
      prompt.fields[i]?.map fun field => (field.target, PromptConfig.answerAt answers i) := by
  rw [Exchange.given, List.getElem?_map, PromptConfig.getElem?_answered, Option.map_map]
  rfl

/-- The variable of a field that no later field is for has the answer to the field. -/
theorem get?_store_given_of_last {answers : List String} {i : Nat} {field : PromptField}
    (hfield : prompt.fields[i]? = some field)
    (hlater : ∀ j later, i < j → prompt.fields[j]? = some later → later.target ≠ field.target) :
    (store values (Exchange.given ⟨prompt, .ok (some answers)⟩)).get? field.target =
      some (PromptConfig.answerAt answers i) := by
  refine get?_store_of_last (i := i) ?_ fun j a hj ha => ?_
  · rw [getElem?_given, hfield]
    rfl
  · rw [getElem?_given, Option.map_eq_some_iff] at ha
    obtain ⟨later, hget, rfl⟩ := ha
    exact hlater j later hj hget

/-- A variable that no field is for keeps its value. -/
theorem get?_store_given_of_forall_ne {answers : List String} {id : VariableId}
    (h : ∀ field ∈ prompt.fields, field.target ≠ id) :
    (store values (Exchange.given ⟨prompt, .ok (some answers)⟩)).get? id = values.get? id := by
  refine get?_store_of_forall_ne fun a ha => ?_
  obtain ⟨i, hi⟩ := List.mem_iff_getElem?.1 ha
  rw [getElem?_given, Option.map_eq_some_iff] at hi
  obtain ⟨field, hfield, rfl⟩ := hi
  exact h field (List.mem_of_getElem? hfield)

/-- The answers of a prompt are stored together or not at all.  A run is accepted exactly if the
channel answered and every required field has an answer that is not empty; then the variable of
each field has the answer to the last field for it, and every other variable keeps its value.  A run
that is not accepted leaves the store as it was, and says why. -/
theorem execute_stores_all_or_nothing (channel : PromptChannel (StateM σ)) (values : ValueStore)
    (s : σ) (p : PromptPreaction) :
    let ran := (p.execute channel values s).1
    (ran.1 = .ok true ↔ ∃ prompt answers, p.prompt = some prompt ∧
        (channel.ask prompt s).1 = .ok (some answers) ∧ prompt.IsComplete answers) ∧
      (∀ prompt answers, p.prompt = some prompt →
        (channel.ask prompt s).1 = .ok (some answers) → ran.1 = .ok true →
        (∀ i field, prompt.fields[i]? = some field →
          (∀ j later, i < j → prompt.fields[j]? = some later → later.target ≠ field.target) →
          ran.2.get? field.target = some (PromptConfig.answerAt answers i)) ∧
          ∀ id, (∀ field ∈ prompt.fields, field.target ≠ id) → ran.2.get? id = values.get? id) ∧
      (ran.1 ≠ .ok true → ran.2 = values ∧ StoresNothing channel s p ran.1) := by
  intro ran
  have hiff : ran.1 = .ok true ↔ ∃ prompt answers, p.prompt = some prompt ∧
      (channel.ask prompt s).1 = .ok (some answers) ∧ prompt.IsComplete answers := by
    constructor
    · intro haccepted
      rcases complete_or_storesNothing channel values s p with h | ⟨answer, hran, hnothing⟩
      · exact h
      · have hanswer : ran.1 = answer := congrArg Prod.fst hran
        exact absurd (hanswer ▸ haccepted) hnothing.ne_accepted
    · rintro ⟨prompt, answers, hprompt, hreply, hcomplete⟩
      exact congrArg Prod.fst (execute_of_complete hprompt hreply hcomplete)
  refine ⟨hiff, ?_, ?_⟩
  · intro prompt answers hprompt hreply haccepted
    obtain ⟨prompt', answers', hprompt', hreply', hcomplete⟩ := hiff.1 haccepted
    -- there is one prompt and one reply to it
    obtain rfl : prompt = prompt' := Option.some.inj (hprompt.symm.trans hprompt')
    obtain rfl : answers = answers' := by simpa using hreply.symm.trans hreply'
    have hstore : ran.2 = store values (Exchange.given ⟨prompt, .ok (some answers)⟩) :=
      congrArg Prod.snd (execute_of_complete hprompt hreply hcomplete)
    rw [hstore]
    exact ⟨fun i field hfield hlater => get?_store_given_of_last hfield hlater,
      fun id hid => get?_store_given_of_forall_ne hid⟩
  · intro hrefused
    rcases complete_or_storesNothing channel values s p with h | ⟨answer, hran, hnothing⟩
    · exact absurd (hiff.2 h) hrefused
    · have hanswer : ran.1 = answer := congrArg Prod.fst hran
      exact ⟨congrArg Prod.snd hran, hanswer ▸ hnothing⟩

end PromptPreaction

end CommandTemplates
