/-
Searches for the first of all violations.

A violation is an error at a place, and places have an order.  `FindsFirst` says of
the result of a search that it is the error at the first place, or that there is none at
any; it does not say how the places are gone through.  Searches are put together from
others, one after the other or with the places renamed.

* `FindsFirst.or`, `FindsFirst.map` — how searches are put together;
* `FindsFirst.eq_none_iff`, `FindsFirst.eq_some_iff` — when a search finds nothing, and
  when an error is found;
* `findsFirst_find?` — a look through a list;
* `findsFirst_check` — a check of a list, element by element, in which no element may
  have the key of one before it.
-/
import Mathlib.Data.List.Basic
import Mathlib.Data.Prod.Lex

namespace CommandTemplates

namespace Settings

/-! ### Searches -/

/-- Whether the result of a search is the first of all violations, or nothing if there is none. -/
def FindsFirst {π ε : Type} (violates : π → ε → Prop) (before : π → π → Prop) : Option ε → Prop
  | none => ∀ p e, ¬ violates p e
  | some e => ∃ p, violates p e ∧ ∀ p' e', violates p' e' → p' = p ∨ before p p'

section Searches

variable {π ρ ε : Type} {violates violates' : π → ε → Prop} {before : π → π → Prop}
  {found found' : Option ε}

theorem FindsFirst.congr (h : FindsFirst violates before found)
    (hiff : ∀ p e, violates' p e ↔ violates p e) : FindsFirst violates' before found := by
  have heq : violates' = violates := funext fun p => funext fun e => propext (hiff p e)
  rwa [heq]

/-- A search that looks at one place only. -/
theorem findsFirst_ite {c : Prop} [Decidable c] (p : π) (e : ε) :
    FindsFirst (fun p' e' => c ∧ p' = p ∧ e' = e) before (if c then some e else none) := by
  by_cases hc : c
  · rw [if_pos hc]
    exact ⟨p, ⟨hc, rfl, rfl⟩, fun p' e' hviolates => .inl hviolates.2.1⟩
  · rw [if_neg hc]
    exact fun p' e' hviolates => hc hviolates.1

/-- Of two searches the second one counts if the first finds nothing. -/
theorem FindsFirst.or (h : FindsFirst violates before found)
    (h' : FindsFirst violates' before found')
    (hbefore : ∀ p e q e', violates p e → violates' q e' → before p q) :
    FindsFirst (fun p e => violates p e ∨ violates' p e) before (found.or found') := by
  cases found with
  | some e =>
    obtain ⟨p, hp, hothers⟩ := h
    refine ⟨p, .inl hp, fun p' e' hviolates => ?_⟩
    rcases hviolates with hviolates | hviolates
    · exact hothers p' e' hviolates
    · exact .inr (hbefore p e p' e' hp hviolates)
  | none =>
    rw [Option.none_or]
    refine FindsFirst.congr h' fun p e => ?_
    exact or_iff_right (h p e)

/-- The places of a search can be renamed in their order. -/
theorem FindsFirst.map {before' : ρ → ρ → Prop} (f : π → ρ) (h : FindsFirst violates before found)
    (hbefore : ∀ p q, before p q → before' (f p) (f q)) :
    FindsFirst (fun q e => ∃ p, f p = q ∧ violates p e) before' found := by
  cases found with
  | none =>
    rintro q e ⟨p, -, hviolates⟩
    exact h p e hviolates
  | some e =>
    obtain ⟨p, hp, hothers⟩ := h
    refine ⟨f p, ⟨p, rfl, hp⟩, ?_⟩
    rintro q' e' ⟨p', rfl, hviolates⟩
    exact (hothers p' e' hviolates).imp (congrArg f) (hbefore p p')

/-- The search finds nothing exactly if there is nothing to be found. -/
theorem FindsFirst.eq_none_iff (h : FindsFirst violates before found) :
    found = none ↔ ∀ p e, ¬ violates p e := by
  cases found with
  | none => exact iff_of_true rfl h
  | some e =>
    obtain ⟨p, hp, -⟩ := h
    exact iff_of_false nofun fun hnone => hnone p e hp

/-- The first of all violations is what the search finds, if the places are in order and each has
only one violation. -/
theorem FindsFirst.eq_some_iff (h : FindsFirst violates before found)
    (hasymm : ∀ p q, before p q → ¬ before q p)
    (hunique : ∀ p e e', violates p e → violates p e' → e = e') {e : ε} :
    found = some e ↔
      ∃ p, violates p e ∧ ∀ p' e', violates p' e' → p' = p ∨ before p p' := by
  constructor
  · rintro rfl
    exact h
  · rintro ⟨p, hp, hothers⟩
    cases found with
    | none => exact absurd hp (h p e)
    | some e' =>
      obtain ⟨p', hp', hothers'⟩ := h
      -- neither of the two places comes before the other
      have hplace : p' = p := by
        rcases hothers p' e' hp' with heq | hbefore
        · exact heq
        · rcases hothers' p e hp with heq | hbefore'
          · exact heq.symm
          · exact absurd hbefore' (hasymm p p' hbefore)
      subst hplace
      rw [hunique p' e' e hp' hp]

theorem map_find?_cons {α : Type} (test : α → Bool) (f : α → ε) (a : α) (l : List α) :
    ((a :: l).find? test).map f =
      (if test a = true then some (f a) else none).or ((l.find? test).map f) := by
  cases htest : test a <;> simp [htest]

/-- Looking through a list in order, where the elements are the places. -/
theorem findsFirst_find?_of_pairwise {l : List π} (h : l.Pairwise before) (test : π → Bool)
    (f : π → ε) :
    FindsFirst (fun p e => p ∈ l ∧ test p = true ∧ e = f p) before ((l.find? test).map f) := by
  induction l with
  | nil => simp [FindsFirst]
  | cons a rest ih =>
    obtain ⟨hlater, hrest⟩ := List.pairwise_cons.1 h
    rw [map_find?_cons]
    refine ((findsFirst_ite a (f a)).or (ih hrest) ?_).congr fun p e => ?_
    · rintro p e q e' ⟨-, rfl, -⟩ ⟨hq, -⟩
      exact hlater q hq
    · rw [List.mem_cons, or_and_right]
      refine or_congr_left ⟨?_, ?_⟩
      · rintro ⟨rfl, htest, he⟩
        exact ⟨htest, rfl, he⟩
      · rintro ⟨htest, rfl, he⟩
        exact ⟨rfl, htest, he⟩

/-- Looking through a list, where the positions are the places. -/
theorem findsFirst_find? {α : Type} (l : List α) (test : α → Bool) (f : α → ε) :
    FindsFirst (fun (j : Nat) e => ∃ a, l[j]? = some a ∧ test a = true ∧ e = f a) (· < ·)
      ((l.find? test).map f) := by
  induction l with
  | nil => simp [FindsFirst]
  | cons a rest ih =>
    -- in the whole list the positions of the others are one higher
    have hrest := ih.map (· + 1) fun _ _ => Nat.succ_lt_succ
    rw [map_find?_cons]
    refine ((findsFirst_ite 0 (f a)).or hrest ?_).congr fun j e => ?_
    · rintro p e q e' ⟨-, rfl, -⟩ ⟨j, rfl, -⟩
      exact Nat.succ_pos j
    · cases j <;> simp

end Searches

/-! ### Checks of a list -/

section Checks

variable {α κ δ ε : Type} (key : α → κ) (repeated : α → ε) (own : α → δ → ε → Prop)

/-- What is wrong with the element of a list at a position: it has a key of before, or a detail of
its own is at fault.  Keys of before are those in `seen` and those of the elements before it. -/
def FaultyAt (seen : List κ) (l : List α) : Nat × Option δ → ε → Prop
  | (i, none), e => ∃ a, l[i]? = some a ∧ key a ∈ seen ++ (l.take i).map key ∧ e = repeated a
  | (i, some d), e => ∃ a, l[i]? = some a ∧ own a d e

/-- What is wrong with a list is wrong with its first element or with the others. -/
theorem faultyAt_cons {seen : List κ} {a : α} {l : List α} {p : Nat × Option δ} {e : ε} :
    FaultyAt key repeated own seen (a :: l) p e ↔
      (∃ d, (0, d) = p ∧
          ((key a ∈ seen ∧ d = none ∧ e = repeated a) ∨ ∃ d', some d' = d ∧ own a d' e)) ∨
        ∃ q : Nat × Option δ, (q.1 + 1, q.2) = p ∧
          FaultyAt key repeated own (key a :: seen) l q e := by
  obtain ⟨i, d⟩ := p
  cases i <;> cases d <;> simp [FaultyAt, or_left_comm]

/-- A check goes through a list and keeps the keys that it has seen.  If it finds the first fault
among the details of each element, it finds the first fault of all. -/
theorem findsFirst_check [DecidableEq κ] (check : List κ → List α → Option ε)
    {fault? : α → Option ε} {lt : δ → δ → Prop} (hnil : ∀ seen, check seen [] = none)
    (hcons : ∀ seen a rest, check seen (a :: rest) =
      if key a ∈ seen then some (repeated a) else (fault? a).or (check (key a :: seen) rest))
    (hown : ∀ a, FindsFirst (own a) lt (fault? a)) (seen : List κ) (l : List α) :
    FindsFirst (FaultyAt key repeated own seen l) (Prod.Lex (· < ·) (Option.lt lt))
      (check seen l) := by
  induction l generalizing seen with
  | nil =>
    rw [hnil]
    rintro ⟨i, _ | d⟩ e <;> simp [FaultyAt]
  | cons a rest ih =>
    have hsplit : check seen (a :: rest) =
        ((if key a ∈ seen then some (repeated a) else none).or (fault? a)).or
          (check (key a :: seen) rest) := by
      rw [hcons]
      by_cases hseen : key a ∈ seen <;> simp [hseen]
    -- the key of the element comes first, then its details, then the other elements
    have hkey : FindsFirst (fun d e => key a ∈ seen ∧ d = none ∧ e = repeated a) (Option.lt lt)
        (if key a ∈ seen then some (repeated a) else none) := findsFirst_ite none (repeated a)
    have hdetails : FindsFirst (fun d e => ∃ d', some d' = d ∧ own a d' e) (Option.lt lt)
        (fault? a) := (hown a).map some fun _ _ hlt => hlt
    have helement := hkey.or hdetails <| by
      rintro _ e _ e' ⟨-, rfl, -⟩ ⟨d, rfl, -⟩
      trivial
    have hfirst : FindsFirst _ (Prod.Lex (· < ·) (Option.lt lt)) _ :=
      helement.map (fun d => (0, d)) fun _ _ hlt => Prod.Lex.right 0 hlt
    have hrest : FindsFirst _ (Prod.Lex (· < ·) (Option.lt lt)) _ :=
      (ih (key a :: seen)).map (fun q => (q.1 + 1, q.2)) fun p q hlt => by
        rw [Prod.lex_def] at hlt ⊢
        exact hlt.imp Nat.succ_lt_succ (And.imp (congrArg Nat.succ) id)
    rw [hsplit]
    refine (hfirst.or hrest ?_).congr fun p e => faultyAt_cons key repeated own
    rintro _ e _ e' ⟨d, rfl, -⟩ ⟨q, rfl, -⟩
    exact Prod.Lex.left _ _ (Nat.succ_pos q.1)

end Checks

end Settings

end CommandTemplates
