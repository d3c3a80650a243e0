/-
Prompts that are answered with lines of text.

A terminal is read to the next line for every field, over all prompts that are put to it.
So the lines of the input and the fields of the prompts are two lists, which are gone
through together.

* `Terminal.askFields_lines`, `Terminal.askFields_short` — one prompt takes as many lines as it
  has fields; if there are fewer, it takes all that are left and is cancelled;
* `Terminal.askAll_lines`, `Terminal.askAll_short` — the same of any number of prompts;
* `Terminal.askFields_filled` — no field with a default is left empty;
* `Terminal.ask_takes_lines` — the answers are the lines, in order, up to the first prompt for
  which they do not suffice, and no prompt whose required fields have defaults is refused.
-/
import CommandTemplates.Proofs.Prompt.Storing
import CommandTemplates.Proofs.Text.Lines
import Mathlib.Data.List.Forall2

namespace CommandTemplates

namespace Terminal

variable {field : PromptField} {fields : List PromptField} {prompt : PromptConfig}
  {prompts : List PromptConfig} {cs line : List Char} {lines others : List (List Char)}

/-- The answer of a line to a field: what the line says, or the default if it says nothing. -/
def lineAnswer (field : PromptField) (line : List Char) : String :=
  if Text.content line = [] then field.defaultValue else String.ofList (Text.content line)

/-- The fields of some prompts, in the order in which they are asked for. -/
def fieldsOf (prompts : List PromptConfig) : List PromptField := prompts.flatMap (·.fields)

/-- The reply to a prompt when there is no line left. -/
def replyWithoutLines (prompt : PromptConfig) : PromptReply :=
  if prompt.fields = [] then .ok (some []) else .ok none

/-- A number of prompts, put to a terminal one after the other. -/
def askAll (prompts : List PromptConfig) : StateM Transcript (List PromptReply) :=
  prompts.mapM Transcript.terminal.channel.ask

/-! ### One field -/

theorem answer_eq {text : List Char} (h : text.rdropWhile (· = '\r') = Text.content line) :
    answer field (String.ofList text) = lineAnswer field line := by
  have htext : (text.reverse.dropWhile (· = '\r')).reverse = Text.content line := h
  simp only [answer, lineAnswer, String.toList_ofList, htext, String.ofList_eq_empty_iff]

theorem readLine_lines (h : Text.lines cs = line :: others) (shown : String) :
    Transcript.terminal.readLine ⟨Utf8.bytes cs, shown⟩ =
      (some (Utf8.bytes line), ⟨Utf8.bytes others.flatten, shown⟩) := by
  simp only [Transcript.terminal, Transcript.takeLine?_bytes h]

theorem askFields_nil (t : Transcript) :
    Transcript.terminal.askFields [] t = (.ok (some []), t) := rfl

/-- A field for which there is no line. -/
theorem askFields_cons_of_nil (field : PromptField) (fields : List PromptField) (shown : String) :
    Transcript.terminal.askFields (field :: fields) ⟨[], shown⟩ =
      (.ok none, ⟨[], shown ++ label field ++ "\n"⟩) := rfl

/-- A field for which there is a line. -/
theorem askFields_cons (h : Text.lines cs = line :: others) (field : PromptField)
    (fields : List PromptField) (shown : String) :
    Transcript.terminal.askFields (field :: fields) ⟨Utf8.bytes cs, shown⟩ =
      let (reply, after) := Transcript.terminal.askFields fields
        ⟨Utf8.bytes others.flatten, shown ++ label field⟩
      match reply with
      | .ok (some answers) => (.ok (some (lineAnswer field line :: answers)), after)
      | reply => (reply, after) := by
  obtain ⟨text, hdecode, htext⟩ := decode_withoutEnd h
  have hread := readLine_lines h (shown ++ label field)
  have hdisplay : Transcript.terminal.display (label field) ⟨Utf8.bytes cs, shown⟩ =
      ((), ⟨Utf8.bytes cs, shown ++ label field⟩) := rfl
  rw [askFields]
  simp only [bind, StateT.bind, hdisplay, hread, hdecode, answer_eq htext]
  rcases Transcript.terminal.askFields fields
    ⟨Utf8.bytes others.flatten, shown ++ label field⟩ with ⟨reply, after⟩
  rcases reply with e | _ | answers <;> rfl

/-! ### One prompt -/

/-- There are lines enough: each field takes one, and the others are left. -/
theorem askFields_lines (fields : List PromptField) (hlines : Text.lines cs = lines)
    (h : fields.length ≤ lines.length) (shown : String) :
    ∃ shown', Transcript.terminal.askFields fields ⟨Utf8.bytes cs, shown⟩ =
      (.ok (some (List.zipWith lineAnswer fields lines)),
        ⟨Utf8.bytes (lines.drop fields.length).flatten, shown'⟩) := by
  induction fields generalizing cs lines shown with
  | nil =>
    refine ⟨shown, ?_⟩
    rw [askFields_nil, List.length_nil, List.drop_zero, ← hlines, Text.flatten_lines]
    rfl
  | cons field fields ih =>
    obtain ⟨line, others, rfl⟩ : ∃ line others, lines = line :: others :=
      List.exists_cons_of_length_pos (Nat.lt_of_lt_of_le (Nat.succ_pos _) h)
    -- the others are asked on the input behind the line, whose lines are the other ones
    obtain ⟨shown', hrest⟩ := ih (Text.lines_flatten_others hlines) (Nat.le_of_succ_le_succ h)
      (shown ++ label field)
    refine ⟨shown', ?_⟩
    rw [askFields_cons hlines, hrest]
    rfl

/-- There are too few lines: all are read, and the prompt is cancelled. -/
theorem askFields_short (fields : List PromptField) (hlines : Text.lines cs = lines)
    (h : lines.length < fields.length) (shown : String) :
    ∃ shown', Transcript.terminal.askFields fields ⟨Utf8.bytes cs, shown⟩ =
      (.ok none, ⟨[], shown'⟩) := by
  induction fields generalizing cs lines shown with
  | nil => exact absurd h (Nat.not_lt_zero _)
  | cons field fields ih =>
    -- there is a field, so either it has no line or there are too few for the others
    cases lines with
    | nil =>
      obtain rfl := Text.lines_eq_nil_iff.1 hlines
      exact ⟨_, askFields_cons_of_nil field fields shown⟩
    | cons line others =>
      obtain ⟨shown', hrest⟩ := ih (Text.lines_flatten_others hlines) (Nat.lt_of_succ_lt_succ h)
        (shown ++ label field)
      refine ⟨shown', ?_⟩
      rw [askFields_cons hlines, hrest]

/-- What is shown before the fields takes nothing from the input. -/
theorem ask_eq (prompt : PromptConfig) (t : Transcript) :
    ∃ shown, Transcript.terminal.channel.ask prompt t =
      Transcript.terminal.askFields prompt.fields ⟨t.input, shown⟩ := by
  by_cases hdescription : prompt.description = ""
  · refine ⟨t.shown ++ (prompt.title ++ "\n"), ?_⟩
    simp only [channel, hdescription, ne_eq, not_true_eq_false, if_false]
    rfl
  · refine ⟨t.shown ++ (prompt.title ++ "\n") ++ (prompt.description ++ "\n"), ?_⟩
    simp only [channel, hdescription, ne_eq, not_false_eq_true, if_true]
    rfl

theorem ask_without_lines (prompt : PromptConfig) (shown : String) :
    ∃ shown', Transcript.terminal.channel.ask prompt ⟨[], shown⟩ =
      (replyWithoutLines prompt, ⟨[], shown'⟩) := by
  obtain ⟨shown', hask⟩ := ask_eq prompt ⟨[], shown⟩
  rw [hask, replyWithoutLines]
  cases prompt.fields with
  | nil => exact ⟨shown', rfl⟩
  | cons field fields => exact ⟨_, askFields_cons_of_nil field fields shown'⟩

/-! ### A number of prompts -/

theorem askAll_cons (prompt : PromptConfig) (prompts : List PromptConfig) (t : Transcript) :
    askAll (prompt :: prompts) t =
      let (reply, t) := Transcript.terminal.channel.ask prompt t
      let (replies, t) := askAll prompts t
      (reply :: replies, t) := by
  rw [askAll, List.mapM_cons]
  rfl

theorem askAll_append (first later : List PromptConfig) (t : Transcript) :
    askAll (first ++ later) t =
      let (replies, t) := askAll first t
      let (others, t) := askAll later t
      (replies ++ others, t) := by
  induction first generalizing t with
  | nil => rfl
  | cons prompt first ih =>
    rw [List.cons_append, askAll_cons, askAll_cons]
    rcases Transcript.terminal.channel.ask prompt t with ⟨reply, t₁⟩
    simp only [ih]
    rcases askAll first t₁ with ⟨replies, t₂⟩
    rcases askAll later t₂ with ⟨others, t₃⟩
    rfl

theorem askAll_without_lines (prompts : List PromptConfig) (shown : String) :
    ∃ shown', askAll prompts ⟨[], shown⟩ = (prompts.map replyWithoutLines, ⟨[], shown'⟩) := by
  induction prompts generalizing shown with
  | nil => exact ⟨shown, rfl⟩
  | cons prompt prompts ih =>
    obtain ⟨shown', hask⟩ := ask_without_lines prompt shown
    obtain ⟨shown'', hothers⟩ := ih shown'
    refine ⟨shown'', ?_⟩
    rw [askAll_cons, hask]
    simp only [hothers, List.map_cons]

theorem zipWith_append_left (fields later : List PromptField) (lines : List (List Char)) :
    List.zipWith lineAnswer (fields ++ later) lines =
      List.zipWith lineAnswer fields lines ++
        List.zipWith lineAnswer later (lines.drop fields.length) := by
  induction fields generalizing lines with
  | nil => rfl
  | cons field fields ih =>
    cases lines with
    | nil => simp
    | cons line lines => simp [ih]

theorem lines_flatten_drop (hlines : Text.lines cs = lines) (n : Nat) :
    Text.lines (lines.drop n).flatten = lines.drop n := by
  induction n generalizing cs lines with
  | zero => rw [List.drop_zero, ← hlines, Text.flatten_lines]
  | succ n ih =>
    cases lines with
    | nil => rfl
    -- the line ends where the next one begins, so the rest is cut into the other lines
    | cons line others => exact ih (Text.lines_flatten_others hlines)

theorem askAll_lines (hlines : Text.lines cs = lines)
    (h : (fieldsOf prompts).length ≤ lines.length) (shown : String) :
    ∃ (answers : List (List String)) (shown' : String), askAll prompts ⟨Utf8.bytes cs, shown⟩ =
        (answers.map fun a => .ok (some a),
          ⟨Utf8.bytes (lines.drop (fieldsOf prompts).length).flatten, shown'⟩) ∧
      answers.map List.length = prompts.map (·.fields.length) ∧
      answers.flatten = List.zipWith lineAnswer (fieldsOf prompts) lines := by
  induction prompts generalizing cs lines shown with
  | nil =>
    refine ⟨[], shown, ?_, rfl, rfl⟩
    rw [fieldsOf, List.flatMap_nil, List.length_nil, List.drop_zero, ← hlines, Text.flatten_lines]
    rfl
  | cons prompt prompts ih =>
    have hfields : fieldsOf (prompt :: prompts) = prompt.fields ++ fieldsOf prompts :=
      List.flatMap_cons
    rw [hfields, List.length_append] at h
    -- the first prompt takes its lines, and the others see what it leaves
    obtain ⟨shown₁, hask⟩ := ask_eq prompt ⟨Utf8.bytes cs, shown⟩
    obtain ⟨shown₂, hreply⟩ := askFields_lines prompt.fields hlines (by omega) shown₁
    obtain ⟨answers, shown₃, hrest, hlengths, hanswers⟩ :=
      ih (lines_flatten_drop hlines prompt.fields.length) (by rw [List.length_drop]; omega) shown₂
    have hlength : (List.zipWith lineAnswer prompt.fields lines).length = prompt.fields.length := by
      rw [List.length_zipWith]
      omega
    refine ⟨List.zipWith lineAnswer prompt.fields lines :: answers, shown₃, ?_, ?_, ?_⟩
    · rw [askAll_cons, hask, hreply]
      simp only [hrest]
      rw [hfields, List.length_append, List.drop_drop, List.map_cons]
    · rw [List.map_cons, List.map_cons, hlengths, hlength]
    · rw [List.flatten_cons, hanswers, hfields, zipWith_append_left]

/-- When the lines run out, the prompt is cancelled, and so is every later one that has a field. -/
theorem askAll_short (hlines : Text.lines cs = lines)
    (hfirst : (fieldsOf prompts).length ≤ lines.length) (prompt : PromptConfig)
    (hshort : lines.length < (fieldsOf prompts).length + prompt.fields.length)
    (later : List PromptConfig) (shown : String) :
    (askAll (prompts ++ prompt :: later) ⟨Utf8.bytes cs, shown⟩).1 =
      (askAll prompts ⟨Utf8.bytes cs, shown⟩).1 ++ .ok none :: later.map replyWithoutLines := by
  obtain ⟨answers, shown₁, hanswered, -, -⟩ := askAll_lines hlines hfirst shown
  obtain ⟨shown₂, hask⟩ := ask_eq prompt
    ⟨Utf8.bytes (lines.drop (fieldsOf prompts).length).flatten, shown₁⟩
  obtain ⟨shown₃, hcancelled⟩ := askFields_short prompt.fields
    (lines_flatten_drop hlines (fieldsOf prompts).length) (by rw [List.length_drop]; omega) shown₂
  obtain ⟨shown₄, hothers⟩ := askAll_without_lines later shown₃
  rw [askAll_append, hanswered]
  simp only [askAll_cons, hask, hcancelled, hothers]

/-! ### Empty answers -/

theorem defaultValue_of_answer_empty {text : String} (h : answer field text = "") :
    field.defaultValue = "" := by
  simp only [answer] at h
  split at h
  · exact h
  · contradiction

/-- Answers to fields are the answer of some line to the first and answers to the others. -/
theorem exists_of_askFields_cons {t : Transcript} {answers : List String}
    (h : (Transcript.terminal.askFields (field :: fields) t).1 = .ok (some answers)) :
    ∃ text rest t', answers = answer field text :: rest ∧
      (Transcript.terminal.askFields fields t').1 = .ok (some rest) := by
  have hdisplay : Transcript.terminal.display (label field) t =
      ((), ⟨t.input, t.shown ++ label field⟩) := rfl
  rw [askFields] at h
  simp only [bind, StateT.bind, hdisplay] at h
  -- there is no line, or it is no text, or the other fields get no answers, or all is well
  rcases hread : Transcript.terminal.readLine ⟨t.input, t.shown ++ label field⟩ with
    ⟨_ | bytes, t'⟩
  all_goals simp only [hread] at h
  · cases h
  · rcases hdecode : Utf8.decode (withoutEnd bytes) with e | text
    · simp only [hdecode] at h
      cases h
    · simp only [hdecode] at h
      rcases hfields : Transcript.terminal.askFields fields t' with ⟨e | _ | rest, after⟩
      all_goals simp only [StateT.bind, hfields] at h; cases h
      exact ⟨text, rest, t', rfl, congrArg Prod.fst hfields⟩

/-- No field with a default is left empty. -/
theorem askFields_filled {t : Transcript} {answers : List String}
    (h : (Transcript.terminal.askFields fields t).1 = .ok (some answers)) {i : Nat}
    (hfield : fields[i]? = some field) (hempty : PromptConfig.answerAt answers i = "") :
    field.defaultValue = "" := by
  induction fields generalizing t answers i with
  | nil => simp at hfield
  | cons first fields ih =>
    obtain ⟨text, rest, t', rfl, hrest⟩ := exists_of_askFields_cons h
    cases i with
    | zero =>
      obtain rfl : first = field := by simpa using hfield
      exact defaultValue_of_answer_empty hempty
    | succ i => exact ih hrest hfield hempty

theorem execute_ne_requiredEmpty {p : PromptPreaction} (hprompt : p.prompt = some prompt)
    (hdefaults : ∀ field ∈ prompt.fields, field.required = true → field.defaultValue ≠ "")
    (values : ValueStore) (t : Transcript) (title label : String) :
    (p.execute Transcript.terminal.channel values t).1.1 ≠ .error (.requiredEmpty title label) := by
  have hrun := PromptPreaction.execute_of_reply Transcript.terminal.channel values t hprompt
  match hreply : (Transcript.terminal.channel.ask prompt t).1 with
  | .error e => simp [hrun, hreply]
  | .ok none => simp [hrun, hreply]
  | .ok (some answers) =>
    -- a required field has a default, which stands in for an empty line
    have hcomplete : prompt.IsComplete answers := by
      rintro i field ⟨hfield, hrequired, hempty⟩
      obtain ⟨shown, hask⟩ := ask_eq prompt t
      rw [hask] at hreply
      exact hdefaults field (List.mem_of_getElem? hfield) hrequired
        (askFields_filled hreply hfield hempty)
    simp [PromptPreaction.execute_of_complete hprompt hreply hcomplete]

/-- Prompts on one terminal neither lose nor shift lines.  As long as the lines suffice, the answers
together are the lines in order, one for each field over all prompts, and the other lines are left
to be read.  The first prompt for which they do not suffice is cancelled, and so is every later one
that has a field.  An empty line stands for the default of its field, so a prompt whose required
fields have defaults never fails for want of an answer. -/
theorem ask_takes_lines (text shown : String) (first : List PromptConfig) :
    let lines := Text.lines text.toList
    let start : Transcript := ⟨Utf8.encode text, shown⟩
    let asked := askAll first start
    let fields := fieldsOf first
    (fields.length ≤ lines.length →
        (∃ answers : List (List String), asked.1 = answers.map (fun a => .ok (some a)) ∧
          answers.map List.length = first.map (·.fields.length) ∧
          answers.flatten = List.zipWith lineAnswer fields lines) ∧
        asked.2.input = Utf8.encode (String.ofList (lines.drop fields.length).flatten) ∧
        ∀ prompt later, lines.length < fields.length + prompt.fields.length →
          (askAll (first ++ prompt :: later) start).1 =
            asked.1 ++ .ok none :: later.map replyWithoutLines) ∧
      ∀ (p : PromptPreaction) (prompt : PromptConfig) (values : ValueStore) (t : Transcript),
        p.prompt = some prompt →
        (∀ field ∈ prompt.fields, field.required = true → field.defaultValue ≠ "") →
        ∀ title label, (p.execute Transcript.terminal.channel values t).1.1 ≠
          .error (.requiredEmpty title label) := by
  intro lines start asked fields
  refine ⟨fun hfirst => ?_, fun p prompt values t hprompt hdefaults title label =>
    execute_ne_requiredEmpty hprompt hdefaults values t title label⟩
  have hstart : start = ⟨Utf8.bytes text.toList, shown⟩ := by simp only [start, Utf8.encode_eq]
  obtain ⟨answers, shown', hasked, hlengths, hanswers⟩ :=
    askAll_lines (show Text.lines text.toList = lines from rfl) hfirst shown
  have hrun : asked = (answers.map fun a => .ok (some a),
      ⟨Utf8.bytes (lines.drop fields.length).flatten, shown'⟩) := by
    rw [← hasked, ← hstart]
  refine ⟨⟨answers, congrArg Prod.fst hrun, hlengths, hanswers⟩, ?_, fun prompt later hshort => ?_⟩
  · rw [hrun, Utf8.encode_ofList]
  · simp only [asked, hstart]
    exact askAll_short rfl hfirst prompt hshort later shown

/-- Three lines for two prompts with two fields each.  The second line is empty, so the default of
its field is the answer, and the third does not suffice for the second prompt. -/
theorem ask_takes_lines_of_three :
    let name : PromptField := { label := "Name", target := "v1" }
    let kind : PromptField :=
      { label := "Kind", defaultValue := "note", target := "v2", required := true }
    let both : PromptConfig := { id := "p1", title := "New", fields := [name, kind] }
    let one : PromptConfig := { id := "p2", title := "Kind", fields := [kind] }
    let bare : PromptConfig := { id := "p3", title := "Done" }
    let text := "a.md\r\n\r\r\nlast\r"
    let start : Transcript := ⟨Utf8.encode text, ""⟩
    (fieldsOf [both]).length ≤ (Text.lines text.toList).length ∧
      (Text.lines text.toList).length < (fieldsOf [both]).length + both.fields.length ∧
      (askAll ([both] ++ both :: [bare, one]) start).1 =
        [.ok (some ["a.md", "note"]), .ok none, .ok (some []), .ok none] ∧
      (askAll [both] start).2.input = Utf8.encode "last\r" ∧
      (PromptPreaction.execute Transcript.terminal.channel .empty ⟨"p2", some one, .empty⟩
        start).1.1 ≠ .error (.requiredEmpty "Kind" "Kind") := by
  intro name kind both one bare text start
  have hfirst : (fieldsOf [both]).length ≤ (Text.lines text.toList).length := by decide
  have hshort : (Text.lines text.toList).length <
      (fieldsOf [both]).length + both.fields.length := by decide
  obtain ⟨hlines, hexecute⟩ := ask_takes_lines text "" [both]
  obtain ⟨⟨answers, hreplies, hlengths, hanswers⟩, hrest, hlater⟩ := hlines hfirst
  obtain ⟨answer, rfl⟩ := List.length_eq_one_iff.1 (by simpa using congrArg List.length hlengths)
  have hanswer : answer = ["a.md", "note"] := by
    rw [List.flatten_singleton] at hanswers
    rw [hanswers]
    decide
  have hleft : ((Text.lines text.toList).drop (fieldsOf [both]).length).flatten =
      "last\r".toList := by decide
  refine ⟨hfirst, hshort, ?_, ?_, ?_⟩
  · rw [hlater both [bare, one] hshort, hreplies, hanswer]
    rfl
  · rw [hrest, hleft, String.ofList_toList]
  · refine hexecute ⟨"p2", some one, .empty⟩ one .empty start rfl ?_ "Kind" "Kind"
    simp [one, kind]

end Terminal

end CommandTemplates
