/-
Arguments of a placeholder, bound to the parameters of the variable that it names.

What suits a parameter is said for one position at a time, apart from the walk along the
two lists: a parameter without an argument has to be optional, and the argument of a
parameter with options has to be one of them.

* `bindFrom_of_allSuit`, `bindFrom_of_offends` — the walk goes on as long as the positions
  suit, and ends at the first that does not;
* `get?_ofList_byName` — what the name of each parameter is bound to;
* `bind_by_position` — when binding succeeds, what it binds, and what it reports.
-/
import CommandTemplates.Parameter
import Mathlib.Data.List.Basic

namespace CommandTemplates

namespace Parameter

/-- Whether an argument, or the lack of one, suits a parameter. -/
def Suits (p : Parameter) : Option String → Prop
  | none => p.required = false
  | some a => ∀ allowed, p.kind = .options allowed → a ∈ allowed

/-- The error that describes what does not suit a parameter of a variable: that its argument is
missing, or that its argument is none of its options. -/
inductive Offends (variableName : String) (p : Parameter) :
    Option String → ArgumentError → Prop
  | missing : p.required = true → Offends variableName p none (.missing variableName p.name)
  | invalidOption {a : String} {allowed : List String} :
    p.kind = .options allowed → a ∉ allowed →
    Offends variableName p (some a) (.invalidOption variableName p.name a allowed)

theorem suits_or_offends (variableName : String) (p : Parameter) (argument : Option String) :
    p.Suits argument ∨ ∃ e, p.Offends variableName argument e := by
  cases argument with
  | none =>
    cases hrequired : p.required with
    | false => exact .inl hrequired
    | true => exact .inr ⟨_, .missing hrequired⟩
  | some a =>
    cases hkind : p.kind with
    | text =>
      refine .inl fun allowed hallowed => ?_
      rw [hkind] at hallowed
      simp at hallowed
    | options allowed =>
      by_cases ha : a ∈ allowed
      · refine .inl fun allowed' hallowed => ?_
        rw [hkind, ParameterKind.options.injEq] at hallowed
        exact hallowed ▸ ha
      · exact .inr ⟨_, .invalidOption hkind ha⟩

theorem Offends.not_suits {variableName : String} {p : Parameter} {argument : Option String}
    {e : ArgumentError} (h : p.Offends variableName argument e) : ¬ p.Suits argument := by
  intro hsuits
  cases h with
  | missing hrequired => simp [Suits, hrequired] at hsuits
  | invalidOption hkind ha => exact ha (hsuits _ hkind)

end Parameter

namespace Arguments

variable {variableName : String} {ps : List Parameter} {as : List String}

/-- Whether each parameter suits the argument at its position. -/
def AllSuit (ps : List Parameter) (as : List String) : Prop :=
  ∀ (i : Nat) (p : Parameter), ps[i]? = some p → p.Suits as[i]?

theorem allSuit_nil (as : List String) : AllSuit [] as := by
  intro i p hp
  simp at hp

theorem allSuit_cons_iff {p : Parameter} :
    AllSuit (p :: ps) as ↔ p.Suits as[0]? ∧ AllSuit ps as.tail := by
  constructor
  · intro h
    refine ⟨h 0 p rfl, fun i q hq => ?_⟩
    rw [List.getElem?_tail]
    exact h (i + 1) q hq
  · rintro ⟨hp, hps⟩ i q hq
    cases i with
    | zero =>
      obtain rfl : p = q := by simpa using hq
      exact hp
    | succ i =>
      have hsuits := hps i q hq
      rwa [List.getElem?_tail] at hsuits

/-! ### The walk along the parameters -/

/-- The names of parameters with the arguments at their positions. -/
def byName (ps : List Parameter) (as : List String) : List (String × String) :=
  (ps.map Parameter.name).zip as

theorem bindFrom_of_allSuit (h : AllSuit ps as) (bound : Arguments) :
    bindFrom variableName bound ps as =
      .ok ((byName ps as).foldl (fun bound e => bound.insert e.1 e.2) bound) := by
  induction ps generalizing as bound with
  | nil => rfl
  | cons p ps ih =>
    obtain ⟨hp, hps⟩ := allSuit_cons_iff.1 h
    cases as with
    | nil =>
      have hrequired : p.required = false := hp
      have hrest := @ih [] hps bound
      rw [bindFrom, hrequired, if_neg Bool.false_ne_true, hrest]
      simp [byName]
    | cons a as =>
      rw [bindFrom]
      split
      · exact ih hps _
      · next allowed hkind =>
        rw [if_pos (hp allowed hkind)]
        exact ih hps _

theorem bindFrom_of_offends {before after : List Parameter} {p : Parameter} {e : ArgumentError}
    (hbefore : AllSuit before as) (h : p.Offends variableName as[before.length]? e)
    (bound : Arguments) : bindFrom variableName bound (before ++ p :: after) as = .error e := by
  induction before generalizing as bound with
  | nil =>
    rw [List.nil_append]
    cases as with
    | nil =>
      -- what offends is a missing argument or a wrong option, and here it is this parameter
      cases h with
      | missing hrequired => rw [bindFrom, hrequired, if_pos rfl]
    | cons a as =>
      cases h with
      | invalidOption hkind ha => simp [bindFrom, hkind, ha]
  | cons q before ih =>
    obtain ⟨hq, hbefore⟩ := allSuit_cons_iff.1 hbefore
    have hrest : p.Offends variableName as.tail[before.length]? e := by
      rw [List.getElem?_tail]
      exact h
    rw [List.cons_append]
    cases as with
    | nil =>
      have hrequired : q.required = false := hq
      rw [bindFrom, hrequired, if_neg Bool.false_ne_true]
      exact ih hbefore hrest bound
    | cons a as =>
      rw [bindFrom]
      split
      · exact ih hbefore hrest _
      · next allowed hkind =>
        rw [if_pos (hq allowed hkind)]
        exact ih hbefore hrest _

/-- Either every position suits, or there is a first one that does not. -/
theorem allSuit_or_offends (variableName : String) (ps : List Parameter) (as : List String) :
    AllSuit ps as ∨ ∃ before p after e, ps = before ++ p :: after ∧ AllSuit before as ∧
      p.Offends variableName as[before.length]? e := by
  induction ps generalizing as with
  | nil => exact .inl (allSuit_nil as)
  | cons p ps ih =>
    rcases p.suits_or_offends variableName as[0]? with hp | ⟨e, he⟩
    · rcases ih as.tail with hps | ⟨before, q, after, e, rfl, hbefore, he⟩
      · exact .inl (allSuit_cons_iff.2 ⟨hp, hps⟩)
      · refine .inr ⟨p :: before, q, after, e, rfl, allSuit_cons_iff.2 ⟨hp, hbefore⟩, ?_⟩
        rw [List.getElem?_tail] at he
        exact he
    · exact .inr ⟨[], p, ps, e, rfl, allSuit_nil as, he⟩

/-! ### What is bound -/

theorem mem_byName_iff {name a : String} :
    (name, a) ∈ byName ps as ↔
      ∃ (i : Nat) (p : Parameter), ps[i]? = some p ∧ p.name = name ∧ as[i]? = some a := by
  simp only [byName, List.mem_iff_getElem?, List.getElem?_zip_eq_some, List.getElem?_map,
    Option.map_eq_some_iff]
  constructor
  · rintro ⟨i, ⟨p, hp, hname⟩, ha⟩
    exact ⟨i, p, hp, hname, ha⟩
  · rintro ⟨i, p, hp, hname, ha⟩
    exact ⟨i, ⟨p, hp, hname⟩, ha⟩

theorem nodup_map_fst_byName (hnames : (ps.map Parameter.name).Nodup) :
    ((byName ps as).map Prod.fst).Nodup := by
  rw [byName, List.zip_eq_zip_take_min, List.map_fst_zip (by simp)]
  exact (List.take_sublist _ _).nodup hnames

/-- A name is bound only if a parameter at the position of an argument has it. -/
theorem exists_of_get?_ofList_byName {name a : String}
    (h : (Dictionary.ofList (byName ps as)).get? name = some a) :
    ∃ (i : Nat) (p : Parameter), ps[i]? = some p ∧ p.name = name ∧ as[i]? = some a := by
  rw [Dictionary.ofList, Dictionary.get?_foldl_insert, Dictionary.get?_empty, Option.or_none,
    Option.map_eq_some_iff] at h
  obtain ⟨⟨name', a'⟩, hlast, rfl⟩ := h
  obtain ⟨hmem, hname⟩ := List.mem_filter.1 (List.mem_of_getLast? hlast)
  obtain rfl : name' = name := by simpa using hname
  exact mem_byName_iff.1 hmem

/-- The name of a parameter is bound to the argument at its position, if there is one. -/
theorem get?_ofList_byName (hnames : (ps.map Parameter.name).Nodup) {i : Nat} {p : Parameter}
    (hp : ps[i]? = some p) : (Dictionary.ofList (byName ps as)).get? p.name = as[i]? := by
  cases ha : as[i]? with
  | some a =>
    exact Dictionary.get?_ofList_of_mem (nodup_map_fst_byName hnames)
      (mem_byName_iff.2 ⟨i, p, hp, rfl, ha⟩)
  | none =>
    -- without an argument there, the name would have to be bound by another parameter
    rw [Option.eq_none_iff_forall_ne_some]
    intro a hbound
    obtain ⟨j, q, hq, hname, haj⟩ := exists_of_get?_ofList_byName hbound
    -- only the parameter itself has its name
    have hi : i < (ps.map Parameter.name).length := by
      rw [List.length_map]
      exact (List.getElem?_eq_some_iff.1 hp).1
    have hij : i = j := (List.getElem?_inj hi hnames).1 (by simp [hp, hq, hname])
    rw [← hij, ha] at haj
    simp at haj

/-! ### When binding succeeds, and how it fails -/

theorem allSuit_iff : AllSuit ps as ↔
    (∀ (i : Nat) (p : Parameter), ps[i]? = some p → as.length ≤ i → p.required = false) ∧
      ∀ (i : Nat) (p : Parameter) (a : String) (allowed : List String),
        ps[i]? = some p → as[i]? = some a → p.kind = .options allowed → a ∈ allowed := by
  constructor
  · intro h
    refine ⟨fun i p hp hi => ?_, fun i p a allowed hp ha hkind => ?_⟩
    · have hsuits := h i p hp
      rwa [List.getElem?_eq_none hi] at hsuits
    · have hsuits := h i p hp
      rw [ha] at hsuits
      exact hsuits allowed hkind
  · rintro ⟨hoptional, hoptions⟩ i p hp
    cases ha : as[i]? with
    | none => exact hoptional i p hp (List.getElem?_eq_none_iff.1 ha)
    | some a => exact fun allowed hkind => hoptions i p a allowed hp ha hkind

theorem bind_eq_ok_iff {bound : Arguments} :
    bind variableName ps as = .ok bound ↔
      as.length ≤ ps.length ∧ AllSuit ps as ∧ Dictionary.ofList (byName ps as) = bound := by
  unfold bind
  split
  · next hsurplus => simp [Nat.not_le.2 hsurplus]
  · next hsurplus =>
    rcases allSuit_or_offends variableName ps as with h | ⟨before, p, after, e, rfl, hbefore, he⟩
    · rw [bindFrom_of_allSuit h, Except.ok.injEq]
      exact ⟨fun hbound => ⟨Nat.not_lt.1 hsurplus, h, hbound⟩, fun hbound => hbound.2.2⟩
    · rw [bindFrom_of_offends hbefore he]
      refine ⟨fun hbound => by simp at hbound, fun hbound => absurd ?_ he.not_suits⟩
      exact hbound.2.1 before.length p (by simp)

theorem bind_eq_error_iff {e : ArgumentError} :
    bind variableName ps as = .error e ↔
      ps.length < as.length ∧ e = .tooMany variableName ps.length as.length ∨
        as.length ≤ ps.length ∧ ∃ before p after, ps = before ++ p :: after ∧ AllSuit before as ∧
          p.Offends variableName as[before.length]? e := by
  unfold bind
  split
  · next hsurplus =>
    have hmany : ¬ as.length ≤ ps.length := Nat.not_le.2 hsurplus
    simp only [hsurplus, hmany, Except.error.injEq, true_and, false_and, or_false]
    exact eq_comm
  · next hsurplus =>
    simp only [hsurplus, Nat.not_lt.1 hsurplus, true_and, false_and, false_or]
    constructor
    · intro herror
      -- no surplus, so the walk ends well or at the first parameter that does not suit
      rcases allSuit_or_offends variableName ps as with h | ⟨before, p, after, e', rfl, hbefore, he⟩
      · rw [bindFrom_of_allSuit h] at herror
        simp at herror
      · rw [bindFrom_of_offends hbefore he, Except.error.injEq] at herror
        exact ⟨before, p, after, rfl, hbefore, herror ▸ he⟩
    · rintro ⟨before, p, after, rfl, hbefore, he⟩
      exact bindFrom_of_offends hbefore he .empty

/-- Arguments are bound by their positions.  Binding succeeds exactly if there are no more arguments
than parameters, the parameters beyond them are optional, and each argument of a parameter with
options is one of these; then each of the first parameters is bound to its argument as it is,
and nothing else is bound.  Otherwise the error counts surplus arguments, if there are any, and
describes the leftmost parameter that its position does not suit, if there are none. -/
theorem bind_by_position (variableName : String) (ps : List Parameter) (as : List String)
    (hnames : (ps.map Parameter.name).Nodup) :
    ((∃ bound, bind variableName ps as = .ok bound) ↔
      as.length ≤ ps.length ∧
        (∀ (i : Nat) (p : Parameter), ps[i]? = some p → as.length ≤ i → p.required = false) ∧
        ∀ (i : Nat) (p : Parameter) (a : String) (allowed : List String),
          ps[i]? = some p → as[i]? = some a → p.kind = .options allowed → a ∈ allowed) ∧
      (∀ bound, bind variableName ps as = .ok bound →
        (∀ (i : Nat) (p : Parameter), ps[i]? = some p → bound.get? p.name = as[i]?) ∧
          ∀ name a, bound.get? name = some a →
            ∃ (i : Nat) (p : Parameter), ps[i]? = some p ∧ p.name = name ∧ as[i]? = some a) ∧
      ∀ e, bind variableName ps as = .error e →
        (ps.length < as.length → e = .tooMany variableName ps.length as.length) ∧
          (as.length ≤ ps.length →
            ∃ before p after, ps = before ++ p :: after ∧ AllSuit before as ∧
              p.Offends variableName as[before.length]? e) := by
  refine ⟨?_, ?_, ?_⟩
  · rw [← allSuit_iff]
    constructor
    · rintro ⟨bound, hbound⟩
      obtain ⟨hlength, hsuit, -⟩ := bind_eq_ok_iff.1 hbound
      exact ⟨hlength, hsuit⟩
    · rintro ⟨hlength, hsuit⟩
      exact ⟨_, bind_eq_ok_iff.2 ⟨hlength, hsuit, rfl⟩⟩
  · intro bound hbound
    obtain ⟨-, -, rfl⟩ := bind_eq_ok_iff.1 hbound
    exact ⟨fun i p hp => get?_ofList_byName hnames hp,
      fun name a ha => exists_of_get?_ofList_byName ha⟩
  · intro e herror
    rcases bind_eq_error_iff.1 herror with ⟨hsurplus, rfl⟩ | ⟨hlength, hfirst⟩
    · exact ⟨fun _ => rfl, fun hlength => absurd hsurplus (Nat.not_lt.2 hlength)⟩
    · exact ⟨fun hsurplus => absurd hsurplus (Nat.not_lt.2 hlength), fun _ => hfirst⟩

theorem bind_by_position_optional_before_required :
    let ps : List Parameter := [⟨"format", .text, false⟩,
      ⟨"mode", .options ["with-dot", "no-dot"], true⟩, ⟨"limit", .options ["1", "2"], false⟩]
    (ps.map Parameter.name).Nodup ∧
      (∃ bound, bind "file" ps ["", "no-dot"] = .ok bound) ∧
      (∀ bound, bind "file" ps ["", "no-dot"] = .ok bound →
        bound.get? "format" = some "" ∧ bound.get? "mode" = some "no-dot" ∧
          bound.get? "limit" = none) ∧
      ∀ bound, bind "file" ps ["no-dot"] ≠ .ok bound := by
  intro ps
  have hnames : (ps.map Parameter.name).Nodup := by decide
  refine ⟨hnames, ?_, ?_, ?_⟩
  · refine (bind_by_position "file" ps ["", "no-dot"] hnames).1.2 ⟨by decide, ?_, ?_⟩
    · rintro (_ | _ | _ | i) p hp hi <;> cases hp <;> simp_all
    · rintro (_ | _ | _ | i) p a allowed hp ha hkind <;> cases hp <;> cases ha <;> cases hkind
      decide
  · intro bound hbound
    have hget := ((bind_by_position "file" ps ["", "no-dot"] hnames).2.1 bound hbound).1
    exact ⟨hget 0 _ rfl, hget 1 _ rfl, hget 2 _ rfl⟩
  · intro bound hbound
    have hsuits := ((bind_by_position "file" ps ["no-dot"] hnames).1.1 ⟨bound, hbound⟩).2.1
    exact absurd (hsuits 1 _ rfl (by decide)) (by decide)

end Arguments

end CommandTemplates
