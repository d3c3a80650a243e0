/-
Templates in which the placeholders of one name have another.

The new name stands in the place of the old one, and whatever else the template holds
is left as it is, escaped placeholders of the old name among it.  A template so renamed
is cut where it was before.

* `Placeholder.cut_renameIn` — renaming changes the names of placeholders alone;
* `Plan.Agrees` — two plans make the same of a placeholder each;
* `Plan.Corresponds.endsLike` — templates whose placeholders agree come to the same end.
-/
import CommandTemplates.Proofs.Placeholder.Surroundings
import CommandTemplates.Proofs.Template.Independence
import Mathlib.Data.List.Forall2

namespace CommandTemplates

/-! ### Renaming in a template -/

namespace Placeholder

variable {old new : String}

/-- Whether a placeholder asks for the variable of a name; an escaped one asks for none. -/
def Names (p : Placeholder) (name : String) : Prop := p.escaped = false ∧ p.name = name

instance (p : Placeholder) (name : String) : Decidable (p.Names name) :=
  inferInstanceAs (Decidable (_ ∧ _))

/-- A placeholder without an escape mark, as it would be written with another name. -/
def sourceNamed (p : Placeholder) (name : String) : String :=
  "\x7b\x7b" ++ name ++ String.ofList (p.source.toList.drop (2 + p.name.toList.length))

/-- A placeholder as it is written where the name `new` takes the place of `old`. -/
def renamedSource (old new : String) (p : Placeholder) : String :=
  if p.Names old then p.sourceNamed new else p.source

/-- A placeholder and what it becomes where the name `new` takes the place of `old`. -/
structure Renamed (old new : String) (p q : Placeholder) : Prop where
  escaped : q.escaped = p.escaped
  name : q.name = if p.Names old then new else p.name
  arguments : q.arguments = p.arguments
  unescaped : p.escaped = true → q.unescaped = p.unescaped

/-- The same word with another name. -/
def Derivation.withName (d : Derivation) {name : List Char} (hname : name ≠ [])
    (hcharacters : ∀ c ∈ name, Text.isNameCharacter c = true) : Derivation :=
  { d with name, name_ne_nil := hname, name_characters := hcharacters }

theorem Derivation.toList_sourceNamed (d : Derivation) (position : Nat)
    (hescaped : d.escaped = false) (hnew : new.toList ≠ [])
    (hcharacters : ∀ c ∈ new.toList, Text.isNameCharacter c = true) :
    ((d.placeholder position).sourceNamed new).toList = (d.withName hnew hcharacters).written := by
  have hdrop : d.written.drop (2 + d.name.length) = writtenArguments d.arguments := by
    rw [Derivation.written, opening, hescaped, Nat.add_comm, ← List.drop_drop]
    simp
  have hname : (d.placeholder position).name.toList.length = d.name.length := by simp [placeholder]
  rw [sourceNamed, d.toList_source, hname, hdrop]
  simp [withName, written, opening, hescaped]

/-- What a word becomes is a word. -/
theorem exists_derivation_renamed (old : String) (hnew : new.toList ≠ [])
    (hcharacters : ∀ c ∈ new.toList, Text.isNameCharacter c = true) (d : Derivation)
    (position : Nat) :
    ∃ e : Derivation, (renamedSource old new (d.placeholder position)).toList = e.written ∧
      ∀ position', Renamed old new (d.placeholder position) (e.placeholder position') := by
  by_cases hnames : (d.placeholder position).Names old
  · refine ⟨d.withName hnew hcharacters, ?_, fun position' => ⟨rfl, ?_, rfl, ?_⟩⟩
    · rw [renamedSource, if_pos hnames, d.toList_sourceNamed position hnames.1 hnew hcharacters]
    · rw [if_pos hnames]
      exact String.ofList_toList
    · intro hescaped
      rw [hnames.1] at hescaped
      simp at hescaped
  · refine ⟨d, ?_, fun position' => ⟨rfl, ?_, rfl, fun _ => rfl⟩⟩
    · rw [renamedSource, if_neg hnames, d.toList_source]
    · rw [if_neg hnames]
      rfl

/-- A piece of a text and what it becomes: the plain text stays. -/
def RenamedPiece (old new : String) (piece piece' : List Char × Placeholder) : Prop :=
  piece'.1 = piece.1 ∧ Renamed old new piece.2 piece'.2

/-- A text whose placeholders are renamed is cut where it was before, wherever it starts. -/
theorem exists_cutFrom_renamed (old : String) (hnew : new.toList ≠ [])
    (hcharacters : ∀ c ∈ new.toList, Text.isNameCharacter c = true) (position position' : Nat)
    (cs : List Char) :
    ∃ pieces, cutFrom position' (joinPieces (renamedSource old new) (cutFrom position cs).2
        (cutFrom position cs).1).toList = (pieces, (cutFrom position cs).2) ∧
      List.Forall₂ (RenamedPiece old new) (cutFrom position cs).1 pieces := by
  -- along the words of the text; a word that begins further to the left would take in the
  -- word before it is renamed as well
  induction position, cs using word_induction generalizing position' with
  | none position cs hno =>
    refine ⟨[], ?_, ?_⟩
    · rw [cutFrom_of_noWordIn hno, joinPieces, String.toList_ofList, cutFrom_of_noWordIn hno]
    · rw [cutFrom_of_noWordIn hno]
      exact .nil
  | word position before d rest hno ih =>
    obtain ⟨e, hwritten, hrenamed⟩ := exists_derivation_renamed old hnew hcharacters d
      (position + Utf8.byteLength before)
    obtain ⟨pieces, hpieces, hall⟩ :=
      ih (position' + Utf8.byteLength before + Utf8.byteLength e.written)
    rw [cutFrom_of_word hno]
    refine ⟨(before, e.placeholder (position' + Utf8.byteLength before)) :: pieces, ?_, ?_⟩
    · rw [joinPieces, String.toList_append, String.toList_append, String.toList_ofList, hwritten,
        List.append_assoc, cutFrom_of_word (hno.exchange e _), hpieces]
    · exact .cons ⟨rfl, hrenamed _⟩ hall

end Placeholder

/-- A template in which the placeholders of the name `old` have the name `new`. -/
def renameIn (old new template : String) : String :=
  substitute template (Placeholder.renamedSource old new)

/-- Renaming changes the names of the placeholders alone. -/
theorem Placeholder.cut_renameIn (old : String) {new : String} (hnew : new.toList ≠ [])
    (hcharacters : ∀ c ∈ new.toList, Text.isNameCharacter c = true) (template : String) :
    (cut (renameIn old new template)).2 = (cut template).2 ∧
      List.Forall₂ (RenamedPiece old new) (cut template).1 (cut (renameIn old new template)).1 := by
  obtain ⟨pieces, hpieces, hall⟩ :=
    exists_cutFrom_renamed old hnew hcharacters 0 0 template.toList
  have hcut : cut (renameIn old new template) = (pieces, (cut template).2) := by
    rw [renameIn, substitute_eq_joinPieces]
    exact hpieces
  rw [hcut]
  exact ⟨rfl, hall⟩

example : renameIn "_a" "_b" "\x7b\x7b\x7b_a:x\x7d\x7d\x7b\x7b!_a\x7d\x7d\x7b\x7b_ab\x7d\x7d" =
    "\x7b\x7b\x7b_b:x\x7d\x7d\x7b\x7b!_a\x7d\x7d\x7b\x7b_ab\x7d\x7d" := by decide +kernel

/-! ### Plans that make the same of placeholders -/

/-- Whether two targets have come to the same end: both have succeeded with one text, or both have
failed. -/
inductive TargetResult.EndsLike (r r' : TargetResult) : Prop
  | succeeded (text : String) : r.succeeded = true → r'.succeeded = true →
    r.content = some text → r'.content = some text → EndsLike r r'
  | failed : r.succeeded = false → r'.succeeded = false → r.errors ≠ [] → r'.errors ≠ [] →
    EndsLike r r'

/-- Whether arguments suit the parameters, and what they are bound to, does not depend on the name
of the variable. -/
theorem Arguments.toOption_bind (name name' : String) (parameters : List Parameter)
    (arguments : List String) :
    (bind name parameters arguments).toOption = (bind name' parameters arguments).toOption := by
  have hfrom : ∀ bound : Arguments, (bindFrom name bound parameters arguments).toOption =
      (bindFrom name' bound parameters arguments).toOption := by
    intro bound
    fun_induction bindFrom name bound parameters arguments <;> simp_all [bindFrom, Except.toOption]
  rw [bind, bind]
  split
  · rfl
  · exact hfrom .empty

/-- Where a default stands in, the reason of the failure does not matter. -/
theorem Fallback.toOption_apply_congr (fallback : Option Fallback)
    {result result' : Except VariableError String} (h : result.toOption = result'.toOption) :
    (apply fallback result).toOption = (apply fallback result').toOption := by
  rcases result with e | text <;> rcases result' with e' | text' <;>
    simp_all [apply, Except.toOption]
  cases fallback with
  | none => rfl
  | some fallback => cases fallback <;> rfl

namespace Plan

variable {plan plan' : Plan} {p q : Placeholder} {template template' : String}

/-- Whether a plan makes the same of a placeholder as another plan of another one: after any number
of passes the same text is settled, and the same passes leave a message. -/
structure Agrees (plan plan' : Plan) (p q : Placeholder) : Prop where
  settled : ∀ k, plan'.settled? k q = plan.settled? k p
  failure : ∀ i, plan'.failure? i q = none ↔ plan.failure? i p = none

theorem agrees_of_escaped (hp : p.escaped = true) (hq : q.escaped = true)
    (hunescaped : q.unescaped = p.unescaped) : plan.Agrees plan' p q := by
  refine ⟨fun k => ?_, fun i => ?_⟩
  · cases k with
    | zero => rfl
    | succ k => rw [settled?_escaped _ _ hp, settled?_escaped _ _ hq, hunescaped]
  · rw [failure?_escaped _ _ hp, failure?_escaped _ _ hq]

/-- No set has either name. -/
theorem agrees_of_unknown (hp : p.escaped = false) (hq : q.escaped = false)
    (hfirst : firstWith? p.name plan.sets = none) (hfirst' : firstWith? q.name plan'.sets = none) :
    plan.Agrees plan' p q := by
  refine ⟨fun k => ?_, fun i => ?_⟩
  · simp [settled?, hp, hq, hfirst, hfirst']
  · by_cases hi : i = 0 <;> simp [failure?, hp, hq, hfirst, hfirst', hi]

/-- The names belong to the same pass, and their variables give the same text, or both give
none. -/
theorem agrees_of_answer {i : Nat} {v w : Variable} (hp : p.escaped = false)
    (hq : q.escaped = false) (hfirst : firstWith? p.name plan.sets = some (i, v))
    (hfirst' : firstWith? q.name plan'.sets = some (i, w))
    (hanswer : (plan'.answer i w q).toOption = (plan.answer i v p).toOption) :
    plan.Agrees plan' p q := by
  refine ⟨fun k => ?_, fun j => ?_⟩
  · simp [settled?, hp, hq, hfirst, hfirst', hanswer]
  · simp only [failure?, hp, hq, hfirst, hfirst']
    by_cases hj : i = j
    · cases hv : plan.answer i v p <;> cases hw : plan'.answer i w q <;>
        simp_all [Except.toOption]
    · simp [hj]

/-- What a placeholder gets from a variable, if it gets anything. -/
theorem toOption_answer (plan : Plan) (i : Nat) (v : Variable) (p : Placeholder) :
    (plan.answer i v p).toOption =
      (Arguments.bind p.name v.parameters p.arguments).toOption.bind fun arguments =>
        (Fallback.apply (plan.fallbacks.get? v.identifier)
          (v.resolve arguments (plan.context i))).toOption := by
  cases hbind : Arguments.bind p.name v.parameters p.arguments with
  | error e =>
    rw [answer, hbind]
    rfl
  | ok arguments =>
    rw [answer_of_bind hbind]
    dsimp only [Except.toOption, Option.bind_some]
    cases Fallback.apply (plan.fallbacks.get? v.identifier)
      (v.resolve arguments (plan.context i)) <;> rfl

/-- It is decided by the parameters, the arguments, the value and the default; the name matters to
the messages only. -/
theorem toOption_answer_congr {i : Nat} {v w : Variable} (harguments : q.arguments = p.arguments)
    (hparameters : w.parameters = v.parameters) (hidentifier : w.identifier = v.identifier)
    (hfallbacks : plan'.fallbacks = plan.fallbacks)
    (hresolve : ∀ arguments, (w.resolve arguments (plan'.context i)).toOption =
      (v.resolve arguments (plan.context i)).toOption) :
    (plan'.answer i w q).toOption = (plan.answer i v p).toOption := by
  rw [toOption_answer, toOption_answer, harguments, hparameters, hidentifier, hfallbacks,
    Arguments.toOption_bind q.name p.name]
  congr 1
  funext arguments
  exact Fallback.toOption_apply_congr _ (hresolve arguments)

/-! ### The end of a template -/

/-- Whether two templates have the same plain texts, and placeholders of which the plans make the
same. -/
structure Corresponds (plan plan' : Plan) (template template' : String) : Prop where
  pieces : List.Forall₂
    (fun piece piece' => piece'.1 = piece.1 ∧ plan.Agrees plan' piece.2 piece'.2)
    (Placeholder.cut template).1 (Placeholder.cut template').1
  tail : (Placeholder.cut template').2 = (Placeholder.cut template).2

theorem corresponds_renameIn {old new : String} (hnew : new.toList ≠ [])
    (hcharacters : ∀ c ∈ new.toList, Text.isNameCharacter c = true)
    (h : ∀ p ∈ Placeholder.scan template, ∀ q, Placeholder.Renamed old new p q →
      plan.Agrees plan' p q) : plan.Corresponds plan' template (renameIn old new template) := by
  obtain ⟨htail, hpieces⟩ := Placeholder.cut_renameIn old hnew hcharacters template
  refine ⟨?_, htail⟩
  have hagrees : ∀ piece ∈ (Placeholder.cut template).1, ∀ q,
      Placeholder.Renamed old new piece.2 q → plan.Agrees plan' piece.2 q :=
    fun piece hpiece => h piece.2 (mem_scan_of_mem_cut hpiece)
  refine ((List.forall₂_and_left _ _).2 ⟨hagrees, hpieces⟩).imp ?_
  rintro piece piece' ⟨hagrees, hplain, hrenamed⟩
  exact ⟨hplain, hagrees _ hrenamed⟩

/-- The same passes have messages about them. -/
theorem Corresponds.errorsIn_eq_nil_iff (h : plan.Corresponds plan' template template') (i : Nat) :
    plan'.errorsIn i template' = [] ↔ plan.errorsIn i template = [] := by
  have hpieces := h.pieces
  rw [errorsIn_eq_nil, errorsIn_eq_nil, Placeholder.scan, Placeholder.scan, List.forall_mem_map,
    List.forall_mem_map]
  generalize (Placeholder.cut template).1 = pieces, (Placeholder.cut template').1 = pieces'
    at hpieces
  induction hpieces with
  | nil => simp
  | cons hpiece _ ih =>
    rw [List.forall_mem_cons, List.forall_mem_cons]
    exact and_congr (hpiece.2.failure i) ih

theorem Corresponds.errorsAfter_eq_nil_iff (h : plan.Corresponds plan' template template')
    (k : Nat) : plan'.errorsAfter template' k = [] ↔ plan.errorsAfter template k = [] := by
  rw [errorsAfter_eq_nil, errorsAfter_eq_nil]
  exact forall₂_congr fun i _ => h.errorsIn_eq_nil_iff i

/-- Without messages they show the same in the end. -/
theorem Corresponds.substitute_shown (h : plan.Corresponds plan' template template') {k : Nat}
    (hlength : plan.sets.length = k + 1) (hnone : plan.errorsAfter template (k + 1) = []) :
    substitute template' (plan'.shown (k + 1)) = substitute template (plan.shown (k + 1)) := by
  rw [substitute_eq_joinPieces, substitute_eq_joinPieces, h.tail]
  -- after the last pass a placeholder without a message is settled, and then its source,
  -- which may be another one, is not shown
  have hsettled : ∀ piece ∈ (Placeholder.cut template).1,
      ∃ text, plan.settled? (k + 1) piece.2 = some text := by
    intro piece hpiece
    refine exists_settled (fun i hi => ?_) fun _ i v hfirst => ?_
    · exact errorsIn_eq_nil.1 (errorsAfter_eq_nil.1 hnone i hi) _ (mem_scan_of_mem_cut hpiece)
    · obtain ⟨set, hset, -⟩ := get?_of_firstWith? hfirst
      exact hlength ▸ (List.getElem?_eq_some_iff.1 hset).1
  refine joinPieces_congr (((List.forall₂_and_left _ _).2 ⟨hsettled, h.pieces⟩).imp ?_)
  rintro piece piece' ⟨⟨text, htext⟩, hplain, hagrees⟩
  refine ⟨hplain, ?_⟩
  rw [shown, shown, hagrees.settled, htext]
  rfl

/-- They come to the same end. -/
theorem Corresponds.endsLike (h : plan.Corresponds plan' template template') {k : Nat}
    (hlength : plan.sets.length = k + 1) :
    (plan.resultAfter template (k + 1) true).EndsLike
      (plan'.resultAfter template' (k + 1) true) := by
  have herrors := h.errorsAfter_eq_nil_iff (k + 1)
  by_cases hnone : plan.errorsAfter template (k + 1) = []
  · have hnone' := herrors.2 hnone
    refine .succeeded (substitute template (plan.shown (k + 1))) ?_ ?_ ?_ ?_
    · simp [resultAfter, hnone]
    · simp [resultAfter, hnone']
    · simp [resultAfter, hnone, join_segmentsAfter]
    · simp [resultAfter, hnone', join_segmentsAfter, h.substitute_shown hlength hnone]
  · have hsome' := mt herrors.1 hnone
    refine .failed ?_ ?_ hnone hsome'
    · simp [resultAfter, hnone]
    · simp [resultAfter, hsome']

end Plan

end CommandTemplates
