/-
The placeholders of custom variables.

Two classes of characters meet here: a registry accepts names of word characters, and
a placeholder is read as far as name characters go.  A record whose name has only
characters of both classes is addressed by its placeholder.  Any other record is not:
the placeholder breaks off inside its name, and is plain text to every expansion.

* `Placeholder.cut_braced`, `Placeholder.cut_braced_of_foreign` — the two readings of
  a name in doubled braces;
* `CustomVariable.outcome` — what an expansion should make of a custom variable;
* `Registry.Edited.outcome_of_placeholder` — the placeholder of any record of a registry
  that edits can reach, as it is read and as it is expanded.
-/
import CommandTemplates.Proofs.Placeholder.Encoding
import CommandTemplates.Proofs.Template.Independence
import CommandTemplates.Proofs.Variable.Edits
import Mathlib.Data.List.TakeWhile

namespace CommandTemplates

/-! ### A name in doubled braces -/

namespace Placeholder

theorem toList_braced (name : String) :
    (braced name).toList = '{' :: '{' :: (name.toList ++ ['}', '}']) := by
  simp [braced]

/-- The placeholder of a name, as it is read. -/
def ofName (name : String) : Placeholder :=
  ⟨false, name, [], ⟨0, Utf8.byteLength (braced name).toList⟩, braced name⟩

theorem cut_braced {name : String} (hname : name ≠ "")
    (hcharacters : ∀ c ∈ name.toList, Text.isNameCharacter c = true) :
    cut (braced name) = ([([], ofName name)], []) := by
  let d := encoding false [] hname hcharacters
  have hwritten : (braced name).toList = d.written := by
    rw [toList_braced]
    rfl
  have hplaceholder : d.placeholder 0 = ofName name := by
    rw [Derivation.placeholder, ← hwritten, String.ofList_toList, Nat.zero_add]
    simp [d, encoding, ofName, unitsOf, meanings]
  have hcut : cutFrom 0 ([] ++ (d.written ++ [])) = _ := cutFrom_of_word (noWordIn_nil _)
  rw [cutFrom_of_noWordIn (noWordIn_nil []), List.append_nil, List.nil_append, Utf8.byteLength_nil,
    Nat.add_zero, hplaceholder] at hcut
  rw [cut, hwritten, hcut]

theorem BeginsWord.exists_eq_braces {cs : List Char} (h : BeginsWord cs) :
    ∃ rest, cs = '{' :: '{' :: rest := by
  obtain ⟨d, rest, rfl⟩ := h
  exact ⟨_, rfl⟩

/-- Punctuation of placeholders that no word holds. -/
theorem isWordCharacter_punctuation :
    Text.isWordCharacter '{' = false ∧ Text.isWordCharacter '}' = false ∧
      Text.isWordCharacter ':' = false ∧ Text.isWordCharacter '!' = false := by decide +kernel

/-- What follows a name does not end the placeholder if it begins inside a word. -/
theorem readEnding_of_word {c : Char} (h : Text.isWordCharacter c = true) (cs : List Char) :
    readEnding (c :: cs) = .broken := by
  obtain ⟨-, hclose, hcolon, -⟩ := isWordCharacter_punctuation
  unfold readEnding
  split
  · simp_all
  · simp_all
  · rfl

/-- A word with a character that no placeholder holds is not read as a name. -/
theorem cut_braced_of_foreign {name : String}
    (hword : ∀ c ∈ name.toList, Text.isWordCharacter c = true)
    (hforeign : ∃ c ∈ name.toList, Text.isNameCharacter c = false) :
    cut (braced name) = ([], (braced name).toList) := by
  obtain ⟨hopen, -, -, hmark⟩ := isWordCharacter_punctuation
  -- the name goes on behind the part that is read, and does not go on with an ending
  have hdrop : ∃ c cs, (name.toList ++ ['}', '}']).dropWhile Text.isNameCharacter = c :: cs ∧
      Text.isWordCharacter c = true := by
    have hsome : name.toList.dropWhile Text.isNameCharacter ≠ [] := by
      intro hnone
      obtain ⟨c, hc, hnot⟩ := hforeign
      rw [List.dropWhile_eq_nil_iff.1 hnone c hc] at hnot
      simp at hnot
    obtain ⟨c, cs, hcs⟩ := List.exists_cons_of_ne_nil hsome
    have hc : c ∈ name.toList := by
      refine (List.dropWhile_sublist Text.isNameCharacter).subset ?_
      rw [hcs]
      exact List.mem_cons_self
    refine ⟨c, cs ++ ['}', '}'], ?_, hword c hc⟩
    rw [List.dropWhile_append, hcs]
    rfl
  -- so nothing begins at the two braces in front
  have hbegin : ¬ BeginsWord ('{' :: '{' :: (name.toList ++ ['}', '}'])) := by
    obtain ⟨c, cs, hcs, hc⟩ := hdrop
    have hmarked : readMark (name.toList ++ ['}', '}']) = (false, name.toList ++ ['}', '}']) := by
      cases hname : name.toList with
      | nil => rfl
      | cons first rest =>
        refine readMark_of_ne ?_ _
        rintro rfl
        rw [hword '!' (by simp [hname])] at hmark
        simp at hmark
    rw [beginsWord_iff_read 0]
    simp only [read, hmarked, hcs, readEnding_of_word hc]
    split <;> simp
  -- further to the right there are no two braces
  have hbraces : '{' ∉ name.toList ++ ['}', '}'] := by
    intro hmem
    rcases List.mem_append.1 hmem with hmem | hmem
    · rw [hword '{' hmem] at hopen
      simp at hopen
    · simp at hmem
  have hrest : NoWordIn (name.toList ++ ['}', '}']) [] := by
    intro t ht _ hword
    obtain ⟨rest, heq⟩ := hword.exists_eq_braces
    rw [List.append_nil] at heq
    exact hbraces (ht.subset (heq ▸ List.mem_cons_self))
  have hsecond : ¬ BeginsWord ('{' :: (name.toList ++ ['}', '}'] ++ [])) := by
    intro hword
    obtain ⟨rest, heq⟩ := hword.exists_eq_braces
    rw [List.append_nil, List.cons.injEq] at heq
    exact hbraces (heq.2 ▸ List.mem_cons_self)
  have hnone : NoWordIn (braced name).toList [] := by
    rw [toList_braced]
    refine .cons ?_ (.cons hsecond hrest)
    rwa [List.append_nil]
  rw [cut, cutFrom_of_noWordIn hnone]

end Placeholder

/-! ### What a template of one placeholder comes to -/

/-- What is reported of a template that comes to a text or to a single message. -/
def TargetResult.ofOutcome (template : String) (finished : Bool) :
    Except String String → TargetResult
  | .ok text => ⟨template, some text, finished, []⟩
  | .error message => ⟨template, none, false, [message]⟩

namespace Plan

variable {plan : Plan} {template : String} {finished : Bool}

theorem resultAfter_plain (hcut : Placeholder.cut template = ([], template.toList)) :
    plan.resultAfter template 1 finished = .ofOutcome template finished (.ok template) := by
  have herrors : plan.errorsAfter template 1 = [] := by
    simp [errorsAfter, errorsIn, Placeholder.scan, hcut]
  simp [resultAfter, herrors, join_segmentsAfter, substitute_eq_joinPieces, hcut, joinPieces,
    TargetResult.ofOutcome]

theorem resultAfter_placeholder {p : Placeholder} {v : Variable}
    (hcut : Placeholder.cut template = ([([], p)], [])) (hescaped : p.escaped = false)
    (hfirst : firstWith? p.name plan.sets = some (0, v)) :
    plan.resultAfter template 1 finished = .ofOutcome template finished (plan.answer 0 v p) := by
  obtain ⟨hsettled, hfailure⟩ := settled?_of_answer hescaped hfirst Nat.one_pos
  -- the placeholder is all of the template, so its message and its text are those of the
  -- template
  have herrors : plan.errorsAfter template 1 = (plan.failure? 0 p).toList := by
    cases hmessage : plan.failure? 0 p <;>
      simp [errorsAfter, errorsIn, Placeholder.scan, hcut, hmessage, List.eraseDups_cons]
  have hcontent : String.join ((plan.segmentsAfter template 1).map (·.text)) = plan.shown 1 p := by
    simp [join_segmentsAfter, substitute_eq_joinPieces, hcut, joinPieces]
  simp only [resultAfter, herrors, hcontent, hfailure, shown, hsettled]
  cases plan.answer 0 v p <;> simp [TargetResult.ofOutcome, Except.toOption]

end Plan

/-! ### The placeholder of a record -/

/-- The context of the given values, in a workspace without files. -/
def Context.bare (values : ValueStore) : Context :=
  { environment := { root := ⟨"/"⟩, now := ⟨0, 0, 0⟩ }, values }

namespace CustomVariable

/-- Whether the placeholder of a record is read: no character of the name ends it. -/
def IsAddressable (record : CustomVariable) : Prop :=
  ∀ c ∈ record.name.toList, Text.isNameCharacter c = true

instance (record : CustomVariable) : Decidable record.IsAddressable :=
  decidable_of_iff (record.name.toList.all Text.isNameCharacter = true) List.all_eq_true

/-- What stands for a custom variable: the value kept under its id, or else the default kept under
its id, or else the message that it has no value. -/
def outcome (record : CustomVariable) (fallbacks : SortedMap Fallback) (values : ValueStore) :
    Except String String :=
  match values.get? record.id, fallbacks.get? record.id with
  | some value, _ => .ok value
  | none, some .emptyValue => .ok ""
  | none, some (.value text) => .ok text
  | none, some .showErrors | none, none =>
    .error (VariableError.noValue record.placeholderName).message

theorem answer_toVariable (record : CustomVariable) {plan : Plan} {i : Nat} {p : Placeholder}
    (harguments : p.arguments = []) :
    plan.answer i record.toVariable p =
      record.outcome plan.fallbacks (plan.context i).values := by
  have hbind : Arguments.bind p.name record.toVariable.parameters p.arguments = .ok .empty := by
    rw [harguments]
    rfl
  -- no rule of availability stands between a custom variable and its value
  have hresolve : record.toVariable.resolve .empty (plan.context i) =
      ((plan.context i).values.get? record.id).elim (.error (.noValue record.placeholderName))
        .ok := by
    show record.toVariable.generate .empty (plan.context i) = _
    simp only [toVariable]
    cases (plan.context i).values.get? record.id <;> rfl
  have hidentifier : record.toVariable.identifier = record.id := rfl
  rw [Plan.answer_of_bind hbind, hresolve, hidentifier, outcome]
  cases (plan.context i).values.get? record.id with
  | some value => rfl
  | none =>
    cases plan.fallbacks.get? record.id with
    | none => rfl
    | some fallback => cases fallback <;> rfl

end CustomVariable

namespace Registry

variable {r : Registry} {record : CustomVariable}

theorem characters_placeholderName {name : String} {p : Char → Bool} (hunderscore : p '_' = true) :
    (∀ c ∈ ("_" ++ name).toList, p c = true) ↔ ∀ c ∈ name.toList, p c = true := by
  simp [String.toList_append, hunderscore]

/-- The placeholder of a record is cut as one if the record is addressable, and is plain text
otherwise. -/
theorem cut_placeholder (hword : isVariableName record.name = true) :
    Placeholder.cut (braced record.placeholderName) =
      if record.IsAddressable then ([([], .ofName record.placeholderName)], [])
      else ([], (braced record.placeholderName).toList) := by
  split
  · next haddressable =>
    refine Placeholder.cut_braced ?_ ((characters_placeholderName rfl).2 haddressable)
    intro hempty
    have hlist := congrArg String.toList hempty
    simp [CustomVariable.placeholderName] at hlist
  · next hnot =>
    simp only [isVariableName, Bool.and_eq_true, List.all_eq_true] at hword
    have hunderscore : Text.isWordCharacter '_' = true := by decide +kernel
    refine Placeholder.cut_braced_of_foreign
      ((characters_placeholderName hunderscore).2 hword.2) ?_
    by_contra hnone
    refine hnot ((characters_placeholderName (p := Text.isNameCharacter) rfl).1 ?_)
    intro c hc
    rw [← Bool.not_eq_false]
    exact fun hforeign => hnone ⟨c, hc, hforeign⟩

/-- A record of a registry that loading and edits can reach has a placeholder that is read, and
expanded to the value of the record, exactly if no character of its name ends a placeholder.  If
one does, the placeholder is no match and stays as it is written, without a message. -/
theorem Edited.outcome_of_placeholder (h : r.Edited) (hmem : record ∈ r.custom)
    (fallbacks : SortedMap Fallback) (first later : Context) {targets : List (String × String)}
    {key : String}
    (hkey : (Dictionary.ofList targets).get? key = some (braced record.placeholderName)) :
    let template := braced record.placeholderName
    let x := Expansion.ofTargets [r.snapshot] fallbacks targets
    let outcome :=
      if record.IsAddressable then record.outcome fallbacks first.values else .ok template
    Placeholder.scan template =
        (if record.IsAddressable then [.ofName record.placeholderName] else []) ∧
      (x.afterCalls [⟨.start, first⟩]).result? key = some (.ofOutcome template false outcome) ∧
      (x.afterCalls [⟨.start, first⟩, ⟨.finish, later⟩]).result? key =
        some (.ofOutcome template true outcome) := by
  intro template x outcome
  let plan : Plan := ⟨[r.snapshot], fallbacks, first, later⟩
  have hcut := cut_placeholder (h.isVariableName record hmem)
  have hresult : ∀ finished,
      plan.resultAfter template 1 finished = .ofOutcome template finished outcome := by
    intro finished
    simp only [outcome]
    split
    · next haddressable =>
      rw [if_pos haddressable] at hcut
      obtain ⟨named, -, hname, hid, hget⟩ := exists_get?_snapshot h.namesApart hmem
      have hfirst : firstWith? record.placeholderName plan.sets = some (0, named.toVariable) := by
        simp only [plan, firstWith?, hget]
      -- a record of the same name has the same id, so it is given the same value
      have houtcome : named.outcome fallbacks first.values =
          record.outcome fallbacks first.values := by
        simp only [CustomVariable.outcome, hid, hname]
      rw [Plan.resultAfter_placeholder hcut rfl hfirst, named.answer_toVariable rfl, ← houtcome]
      rfl
    · next hnot =>
      rw [if_neg hnot] at hcut
      exact Plan.resultAfter_plain hcut
  refine ⟨?_, ?_, ?_⟩
  · simp only [template, Placeholder.scan, hcut]
    split <;> rfl
  · rw [← hresult]
    exact Expansion.result?_started plan hkey
  · rw [← hresult]
    exact Expansion.result?_finished plan hkey

/-- A registry with one name of letters alone, and one with an accent that is a character of its
own. -/
def accented : Registry := ⟨[⟨"id-1", "caf\u00E9", ""⟩, ⟨"id-2", "cafe\u0301", ""⟩]⟩

theorem Edited.outcome_of_placeholder_accented :
    let record : CustomVariable := ⟨"id-1", "caf\u00E9", ""⟩
    let template := braced record.placeholderName
    let targets := [("t", template)]
    let values : ValueStore := .ofList [("id-1", "V")]
    let x := Expansion.ofTargets [accented.snapshot] .empty targets
    accented.Edited ∧ record ∈ accented.custom ∧
      (Dictionary.ofList targets).get? "t" = some template ∧
      Placeholder.scan template = [⟨false, "_caf\u00E9", [], ⟨0, 10⟩, template⟩] ∧
      (x.afterCalls [⟨.start, .bare values⟩]).result? "t" =
        some ⟨template, some "V", false, []⟩ ∧
      (x.afterCalls [⟨.start, .bare .empty⟩, ⟨.finish, .bare values⟩]).result? "t" =
        some ⟨template, none, false,
          ["\x7b\x7b_caf\u00E9\x7d\x7d has not been assigned a value"]⟩ := by
  intro record template targets values x
  have hloaded : Edited ⟨[record]⟩ := .loaded (load_eq_ok_iff.2 ⟨rfl, by decide +kernel, by simp⟩)
  have hrename : (create ⟨[record]⟩ "id-2").2.rename "id-2" "cafe\u0301" = .ok accented := by
    decide +kernel
  have hedited : accented.Edited := (hloaded.created "id-2").renamed hrename
  have hmem : record ∈ accented.custom := List.mem_cons_self
  have hkey : (Dictionary.ofList targets).get? "t" = some template := by decide +kernel
  have haddressable : record.IsAddressable := by decide +kernel
  obtain ⟨hscan, hstarted, -⟩ :=
    Edited.outcome_of_placeholder hedited hmem .empty (.bare values) (.bare .empty) hkey
  obtain ⟨-, -, hfinished⟩ :=
    Edited.outcome_of_placeholder hedited hmem .empty (.bare .empty) (.bare values) hkey
  rw [if_pos haddressable] at hscan hstarted hfinished
  refine ⟨hedited, hmem, hkey, ?_, ?_, ?_⟩
  · rw [hscan]
    decide +kernel
  · rw [hstarted]
    decide +kernel
  · rw [hfinished]
    decide +kernel

/-- The other name is accepted too, but its placeholder is left as it is written. -/
theorem unread_accented :
    let record : CustomVariable := ⟨"id-2", "cafe\u0301", ""⟩
    let template := braced record.placeholderName
    let x := Expansion.ofTargets [accented.snapshot] .empty [("t", template)]
    load accented.custom = .ok accented ∧ record ∈ accented.custom ∧
      Placeholder.scan template = [] ∧
      (x.afterCalls [⟨.start, .bare (.ofList [("id-2", "V")])⟩]).result? "t" =
        some ⟨template, some template, false, []⟩ := by
  decide +kernel

end Registry

end CommandTemplates
