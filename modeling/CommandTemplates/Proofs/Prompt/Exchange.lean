/-
Preactions as exchanges with a user.

A channel is a state machine here: its reply to a prompt may depend on its state in any
way, and so on all that it was asked before.  `PromptChannel.recorded` writes down every
prompt that it is asked and every reply that it gives.

What a preaction does is told by its exchange alone.  It is accepted (`Accepts`) if its
prompt was answered with every required field filled, and otherwise it ends the
preparation (`Stops`) with nothing stored.

* `PromptPreaction.execute_recorded` — one preaction is accepted or stops;
* `runPreactions_recorded` — preactions are accepted one after the other, up to the
  first that stops;
* `PromptPreaction.get?_store` — what the answers leave in the store.
-/
import CommandTemplates.Preparation
import Mathlib.Data.List.Forall2
import Mathlib.Data.List.Induction

namespace CommandTemplates

variable {σ : Type}

/-- A prompt that was put to a user, and the reply. -/
structure Exchange where
  prompt : PromptConfig
  reply : PromptReply
  deriving DecidableEq

/-- The channel that writes down its exchanges. -/
def PromptChannel.recorded (channel : PromptChannel (StateM σ)) :
    PromptChannel (StateM (σ × List Exchange)) where
  ask prompt := fun (s, log) =>
    let (reply, s) := channel.ask prompt s
    (reply, s, log ++ [⟨prompt, reply⟩])

/-- The fields of a prompt with their answers.  A missing answer is an empty one, and a surplus one
belongs to no field. -/
def PromptConfig.answered (prompt : PromptConfig) (answers : List String) :
    List (PromptField × String) :=
  prompt.fields.zipIdx.map fun (field, i) => (field, answers[i]?.getD "")

/-- The answers of an exchange with the variables that they are for, in the order of the fields. -/
def Exchange.given (e : Exchange) : List (VariableId × String) :=
  match e.reply with
  | .ok (some answers) => (e.prompt.answered answers).map fun a => (a.1.target, a.2)
  | _ => []

/-- Whether an answer leaves a required field empty. -/
def isMissing (a : PromptField × String) : Bool := a.1.required && a.2 = ""

namespace PromptPreaction

/-- An exchange in which the prompt of a preaction is answered with every required field filled. -/
def Accepts (p : PromptPreaction) (e : Exchange) : Prop :=
  p.prompt = some e.prompt ∧ ∃ answers, e.reply = .ok (some answers) ∧
    ∀ a ∈ e.prompt.answered answers, a.1.required = true → a.2 ≠ ""

/-- The ways in which a preaction ends a preparation: the exchanges it takes, at most one, and what
becomes of the preparation. -/
inductive Stops (p : PromptPreaction) : List Exchange → Preparation → Prop
  | notFound : p.prompt = none →
    Stops p [] (.failed [(PreactionError.promptNotFound p.promptId).message])
  | unreachable {prompt : PromptConfig} {e : PromptError} : p.prompt = some prompt →
    Stops p [⟨prompt, .error e⟩] (.failed [e.message])
  | cancelled {prompt : PromptConfig} : p.prompt = some prompt →
    Stops p [⟨prompt, .ok none⟩] .cancelled
  /-- The message is about the first field that is required and left empty. -/
  | incomplete {prompt : PromptConfig} {answers : List String} {a : PromptField × String} :
    p.prompt = some prompt → (prompt.answered answers).find? isMissing = some a →
    Stops p [⟨prompt, .ok (some answers)⟩]
      (.failed [(PreactionError.requiredEmpty prompt.title a.1.label).message])

/-! ### One preaction -/

theorem assignments_eq (title : String) (fields : List PromptField) (answers : List String)
    (i : Nat) :
    assignments title fields (answers.drop i) =
      let answered := (fields.zipIdx i).map fun (field, i) => (field, answers[i]?.getD "")
      match answered.find? isMissing with
      | some a => .error (.requiredEmpty title a.1.label)
      | none => .ok (answered.map fun a => (a.1.target, a.2)) := by
  -- along the fields; `i` is the number of the first one
  induction fields generalizing i with
  | nil => rfl
  | cons field fields ih =>
    have hhead : (answers.drop i).head?.getD "" = answers[i]?.getD "" := by simp
    have htail : (answers.drop i).tail = answers.drop (i + 1) := by simp
    have htest : (field.required && decide (answers[i]?.getD "" = "")) =
        isMissing (field, answers[i]?.getD "") := rfl
    simp only [assignments, hhead, htail, htest, ih (i + 1), List.zipIdx_cons, List.map_cons]
    by_cases hmissing : isMissing (field, answers[i]?.getD "") = true
    · rw [List.find?_cons_of_pos hmissing, if_pos hmissing]
    · rw [List.find?_cons_of_neg hmissing, if_neg hmissing]
      split <;> rfl

theorem assignments_answered (prompt : PromptConfig) (answers : List String) :
    assignments prompt.title prompt.fields answers =
      match (prompt.answered answers).find? isMissing with
      | some a => .error (.requiredEmpty prompt.title a.1.label)
      | none => .ok (Exchange.given ⟨prompt, .ok (some answers)⟩) :=
  assignments_eq prompt.title prompt.fields answers 0

theorem accepts_of_find? {p : PromptPreaction} {prompt : PromptConfig} {answers : List String}
    (hprompt : p.prompt = some prompt)
    (hfind : (prompt.answered answers).find? isMissing = none) :
    p.Accepts ⟨prompt, .ok (some answers)⟩ := by
  refine ⟨hprompt, answers, rfl, ?_⟩
  intro a ha hrequired hempty
  refine List.find?_eq_none.1 hfind a ha ?_
  simp [isMissing, hrequired, hempty]

/-- A preaction is accepted and stores its answers, or it stops and stores nothing. -/
theorem execute_recorded (channel : PromptChannel (StateM σ)) (values : ValueStore) (s : σ)
    (log : List Exchange) (p : PromptPreaction) :
    (∃ e s', p.Accepts e ∧ p.execute channel.recorded values (s, log) =
        ((.ok true, store values e.given), s', log ++ [e])) ∨
      ∃ last outcome answer s', p.Stops last outcome ∧
        p.execute channel.recorded values (s, log) = ((answer, values), s', log ++ last) ∧
        (answer = .ok false ∧ outcome = .cancelled ∨
          ∃ e : PreactionError, answer = .error e ∧ outcome = .failed [e.message]) := by
  cases hprompt : p.prompt with
  | none =>
    simp only [execute, hprompt]
    refine .inr ⟨[], _, _, s, .notFound hprompt, ?_, .inr ⟨_, rfl, rfl⟩⟩
    rw [List.append_nil]
    rfl
  | some prompt =>
    -- whatever the channel replies is also what is written down
    obtain ⟨reply, s', hask⟩ : ∃ reply s', channel.ask prompt s = (reply, s') := ⟨_, _, rfl⟩
    have hrecorded : channel.recorded.ask prompt (s, log) =
        (reply, s', log ++ [⟨prompt, reply⟩]) := by
      simp only [PromptChannel.recorded, hask]
    simp only [execute, hprompt, bind, StateT.bind, hrecorded]
    match reply with
    | .error e => exact .inr ⟨_, _, _, s', .unreachable hprompt, rfl, .inr ⟨_, rfl, rfl⟩⟩
    | .ok none => exact .inr ⟨_, _, _, s', .cancelled hprompt, rfl, .inl ⟨rfl, rfl⟩⟩
    | .ok (some answers) =>
      simp only [assignments_answered]
      cases hfind : (prompt.answered answers).find? isMissing with
      | none => exact .inl ⟨_, s', accepts_of_find? hprompt hfind, rfl⟩
      | some a => exact .inr ⟨_, _, _, s', .incomplete hprompt hfind, rfl, .inr ⟨_, rfl, rfl⟩⟩

/-- Writing the exchanges down changes nothing else. -/
theorem execute_of_recorded (channel : PromptChannel (StateM σ)) (values : ValueStore) (s : σ)
    (log : List Exchange) (p : PromptPreaction) :
    p.execute channel values s =
      ((p.execute channel.recorded values (s, log)).1,
        (p.execute channel.recorded values (s, log)).2.1) := by
  cases hprompt : p.prompt with
  | none =>
    simp only [execute, hprompt]
    rfl
  | some prompt =>
    simp only [execute, hprompt, bind, StateT.bind, PromptChannel.recorded]
    rcases channel.ask prompt s with ⟨reply, s'⟩
    match reply with
    | .error e => rfl
    | .ok none => rfl
    | .ok (some answers) =>
      dsimp only
      cases assignments prompt.title prompt.fields answers <;> rfl

/-! ### What is stored -/

theorem store_append (values : ValueStore) (first second : List (VariableId × String)) :
    store values (first ++ second) = store (store values first) second :=
  List.foldl_append

/-- The last answer for a variable counts, and a variable without one keeps its value. -/
theorem get?_store (values : ValueStore) (assigned : List (VariableId × String))
    (id : VariableId) :
    (store values assigned).get? id =
      (((assigned.filter fun a => a.1 = id).getLast?).map Prod.snd).or (values.get? id) :=
  Dictionary.get?_foldl_insert assigned values id

end PromptPreaction

/-! ### All preactions of a command -/

/-- The first of some preactions that is not accepted, with the exchanges up to it: all of them,
those that were accepted, and what becomes of the preparation. -/
inductive EndsEarly (steps : List PromptPreaction) :
    List Exchange → List Exchange → Preparation → Prop
  | intro {before after : List PromptPreaction} {p : PromptPreaction}
    {accepted last : List Exchange} {outcome : Preparation} :
    steps = before ++ p :: after → List.Forall₂ PromptPreaction.Accepts before accepted →
    p.Stops last outcome → EndsEarly steps (accepted ++ last) accepted outcome

theorem EndsEarly.cons {steps : List PromptPreaction} {exchanges accepted : List Exchange}
    {outcome : Preparation} {p : PromptPreaction} {e : Exchange} (he : p.Accepts e)
    (h : EndsEarly steps exchanges accepted outcome) :
    EndsEarly (p :: steps) (e :: exchanges) (e :: accepted) outcome := by
  obtain ⟨hsteps, haccepted, hstops⟩ := h
  rw [← List.cons_append]
  exact .intro (by rw [hsteps, List.cons_append]) (.cons he haccepted) hstops

theorem PromptPreaction.Stops.not_accepted {p : PromptPreaction} {last : List Exchange}
    {outcome : Preparation} (h : p.Stops last outcome) (after : List PromptPreaction) :
    ¬ List.Forall₂ Accepts (p :: after) last := by
  intro hall
  -- without a prompt there is no exchange to accept; else the reply is not one that is
  -- accepted
  cases h with
  | notFound => cases hall
  | unreachable =>
    obtain ⟨⟨-, answers, hreply, -⟩, -⟩ := List.forall₂_cons.1 hall
    simp at hreply
  | cancelled =>
    obtain ⟨⟨-, answers, hreply, -⟩, -⟩ := List.forall₂_cons.1 hall
    simp at hreply
  | incomplete _ hfind =>
    obtain ⟨⟨-, answers, hreply, hfilled⟩, -⟩ := List.forall₂_cons.1 hall
    simp only [Except.ok.injEq, Option.some.injEq] at hreply
    subst hreply
    have hmissing := List.find?_some hfind
    simp only [isMissing, Bool.and_eq_true, decide_eq_true_eq] at hmissing
    exact hfilled _ (List.mem_of_find?_eq_some hfind) hmissing.1 hmissing.2

theorem EndsEarly.not_accepted {steps : List PromptPreaction} {exchanges accepted : List Exchange}
    {outcome : Preparation} (h : EndsEarly steps exchanges accepted outcome) :
    ¬ List.Forall₂ PromptPreaction.Accepts steps exchanges := by
  cases h with
  | @intro before after p accepted last outcome hsteps haccepted hstops =>
    intro hall
    -- past the accepted preactions there is the one that stops, with its exchange
    have hrest := List.forall₂_drop before.length hall
    rw [hsteps, List.drop_left, haccepted.length_eq, List.drop_left] at hrest
    exact hstops.not_accepted after hrest

theorem EndsEarly.ne_ready {steps : List PromptPreaction} {exchanges accepted : List Exchange}
    {outcome : Preparation} (h : EndsEarly steps exchanges accepted outcome)
    (prepared : PreparedCommand) : outcome ≠ .ready prepared := by
  obtain ⟨-, -, hstops⟩ := h
  cases hstops <;> simp

/-- Preactions run in their order, up to the first that is not accepted; the store then has the
answers of those before it. -/
theorem runPreactions_recorded (channel : PromptChannel (StateM σ))
    (steps : List PromptPreaction) (values : ValueStore) (s : σ) (log : List Exchange) :
    ∃ stopped exchanges accepted s',
      runPreactions channel.recorded steps values (s, log) =
        ((stopped, PromptPreaction.store values (accepted.flatMap (·.given))), s',
          log ++ exchanges) ∧
      match stopped with
      | none => exchanges = accepted ∧ List.Forall₂ PromptPreaction.Accepts steps accepted
      | some outcome => EndsEarly steps exchanges accepted outcome := by
  induction steps generalizing values s log with
  | nil => exact ⟨none, [], [], s, by rw [List.append_nil]; rfl, rfl, .nil⟩
  | cons p steps ih =>
    rcases p.execute_recorded channel values s log with
      ⟨e, s', haccepts, hexecute⟩ | ⟨last, outcome, answer, s', hstops, hexecute, hanswer⟩
    · obtain ⟨stopped, exchanges, accepted, s'', hrun, hstopped⟩ :=
        ih (PromptPreaction.store values e.given) s' (log ++ [e])
      refine ⟨stopped, e :: exchanges, e :: accepted, s'', ?_, ?_⟩
      · simp only [runPreactions, bind, StateT.bind, hexecute, hrun]
        rw [List.flatMap_cons, PromptPreaction.store_append, List.append_assoc,
          List.singleton_append]
      · cases stopped with
        | none => exact ⟨by rw [hstopped.1], .cons haccepts hstopped.2⟩
        | some outcome => exact EndsEarly.cons haccepts hstopped
    · have hearly : EndsEarly (p :: steps) ([] ++ last) [] outcome :=
        .intro (List.nil_append _).symm .nil hstops
      refine ⟨some outcome, last, [], s', ?_, hearly⟩
      simp only [runPreactions, bind, StateT.bind, hexecute]
      rcases hanswer with ⟨rfl, rfl⟩ | ⟨e, rfl, rfl⟩ <;> rfl

theorem runPreactions_of_recorded (channel : PromptChannel (StateM σ))
    (steps : List PromptPreaction) (values : ValueStore) (s : σ) (log : List Exchange) :
    runPreactions channel steps values s =
      ((runPreactions channel.recorded steps values (s, log)).1,
        (runPreactions channel.recorded steps values (s, log)).2.1) := by
  induction steps generalizing values s log with
  | nil => rfl
  | cons p steps ih =>
    simp only [runPreactions, bind, StateT.bind, p.execute_of_recorded channel values s log]
    rcases p.execute channel.recorded values (s, log) with ⟨⟨answer, values'⟩, s', log'⟩
    match answer with
    | .ok true => exact ih values' s' log'
    | .ok false => rfl
    | .error e => rfl

end CommandTemplates
