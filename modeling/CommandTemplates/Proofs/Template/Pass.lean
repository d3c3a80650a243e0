/-
One pass over the parts of a target.

Between passes a target is made of the texts that are settled and of the template
text between them (`Plan.segments`).  A pass reads each part of template text anew;
that it finds there exactly the placeholders that the whole template has there is
the work of `Placeholder.cutFrom_before`.

* `Plan.expandToken_of_pending` — what a pass makes of one placeholder;
* `Plan.expandSegments_segments` — what a pass makes of a target, and the messages it
  leaves.
-/
import CommandTemplates.Proofs.Placeholder.Cut
import CommandTemplates.Proofs.Template.Plan

namespace CommandTemplates

/-! ### Text that starts further to the right -/

/-- The same token in a text with `n` more bytes before it. -/
def Token.shift (n : Nat) : Token → Token
  | .value p v arguments => .value (p.shift n) v arguments
  | .escaped p => .escaped (p.shift n)
  | .rejected e => .rejected (e.shift n)

theorem Token.classify_shift (available known : VariableSet) (p : Placeholder) (n : Nat) :
    Token.classify available known (p.shift n) =
      (Token.classify available known p).map (Token.shift n) := by
  cases hescaped : p.escaped with
  | true => simp [Token.classify, Placeholder.shift, hescaped, Token.shift]
  | false =>
    cases hget : available.get? p.name with
    | some v =>
      cases hbind : Arguments.bind p.name v.parameters p.arguments <;>
        simp [Token.classify, Placeholder.shift, hescaped, hget, hbind, Token.shift,
          PlaceholderError.shift]
    | none =>
      cases hknown : known.contains p.name <;>
        simp [Token.classify, Placeholder.shift, hescaped, hget, hknown, Token.shift,
          PlaceholderError.shift]

namespace Pass

theorem expandToken_shift (pass : Pass) (n : Nat) (memo : Memo) (token : Token) :
    pass.expandToken n memo token = pass.expandToken 0 memo (token.shift n) := by
  cases token with
  | value p v arguments =>
    simp only [expandToken, Token.shift, Placeholder.shift, Span.shift, Nat.zero_add,
      Nat.add_comm n]
  | escaped p => rfl
  | rejected e =>
    simp only [expandToken, Token.shift, PlaceholderError.shift, Span.shift, Nat.zero_add,
      Nat.add_zero, Nat.add_comm n]

theorem expandPieces_shift (pass : Pass) (n : Nat) (tail : List Char) (memo : Memo)
    (held : List Char) (start : Nat) (pieces : List (List Char × Placeholder)) :
    pass.expandPieces n tail memo held start pieces =
      pass.expandPieces 0 tail memo held (start + n)
        (pieces.map fun piece => (piece.1, piece.2.shift n)) := by
  induction pieces generalizing memo held start with
  | nil => simp only [expandPieces, List.map_nil, Nat.zero_add, Nat.add_comm n]
  | cons piece pieces ih =>
    obtain ⟨before, p⟩ := piece
    simp only [expandPieces, List.map_cons, Token.classify_shift]
    cases Token.classify pass.available pass.known p with
    | none => exact ih memo _ start
    | some token =>
      simp only [Option.map_some, expandToken_shift pass n, ih, Placeholder.shift, Span.shift,
        Nat.zero_add, Nat.add_comm n]

/-- A text is expanded by its cut, with the spans that the placeholders have in the template. -/
theorem expandText_eq (pass : Pass) (memo : Memo) (cs : List Char) (origin : Nat) :
    pass.expandText memo (String.ofList cs) origin =
      pass.expandPieces 0 (Placeholder.cutFrom origin cs).2 memo [] origin
        (Placeholder.cutFrom origin cs).1 := by
  have hadd := Placeholder.cutFrom_add 0 origin cs
  rw [Nat.zero_add] at hadd
  rw [hadd]
  simp only [expandText, Placeholder.cut, String.toList_ofList, expandPieces_shift pass origin,
    Nat.zero_add]

/-- Leaving an empty text out changes nothing. -/
theorem expandSegments_pendingText (pass : Pass) (memo : Memo) (origin : Nat) (cs : List Char)
    (rest : List Segment) :
    pass.expandSegments memo (pendingText origin cs ++ rest) =
      pass.expandSegments memo (.pending (String.ofList cs) origin :: rest) := by
  by_cases hcs : cs = []
  · subst hcs
    have htext : pass.expandText memo (String.ofList []) origin = ([], [], memo) := by
      rw [expandText_eq, Placeholder.cutFrom_of_noWordIn (Placeholder.noWordIn_nil [])]
      rfl
    simp only [pendingText, if_true, List.nil_append, expandSegments, htext]
  · simp only [pendingText, if_neg hcs, List.cons_append, List.nil_append]

end Pass

namespace Plan

variable {plan : Plan} {i : Nat} {available : VariableSet} {memo : Memo}

/-- Pass `i` with the variables of its set. -/
def pass (plan : Plan) (i : Nat) (available : VariableSet) : Pass :=
  ⟨i, available, plan.known, plan.fallbacks, plan.context i⟩

@[simp] theorem pass_available (plan : Plan) (i : Nat) (available : VariableSet) :
    (plan.pass i available).available = available := rfl

@[simp] theorem pass_known (plan : Plan) (i : Nat) (available : VariableSet) :
    (plan.pass i available).known = plan.known := rfl

@[simp] theorem pass_fallbacks (plan : Plan) (i : Nat) (available : VariableSet) :
    (plan.pass i available).fallbacks = plan.fallbacks := rfl

/-- Whether every remembered result is the one of the first variable of the name, in the pass of
its set. -/
def Tells (plan : Plan) (memo : Memo) : Prop :=
  ∀ request result, memo.results.get? request = some result →
    ∃ i v arguments, firstWith? request.name plan.sets = some (i, v) ∧
      Arguments.bind request.name v.parameters request.arguments = .ok arguments ∧
      result = v.resolve arguments (plan.context i)

theorem tells_empty (plan : Plan) : plan.Tells {} := by
  intro request result h
  simp at h

/-! ### One placeholder -/

/-- Asking for the value of a variable in the pass of its set gives the value it has there,
remembered or not. -/
theorem result_of_tells (available : VariableSet) (hmemo : plan.Tells memo) {request : Request}
    {v : Variable} {arguments : Arguments}
    (hfirst : firstWith? request.name plan.sets = some (i, v))
    (hbind : Arguments.bind request.name v.parameters request.arguments = .ok arguments) :
    ∃ memo', (plan.pass i available).result memo v request arguments =
      (v.resolve arguments (plan.context i), memo') ∧ plan.Tells memo' := by
  unfold Pass.result
  split
  · next result hget =>
    -- a request determines the set, the variable and the bound arguments, so what is
    -- remembered for it is the value that is asked for now
    obtain ⟨j, w, bound, hfirst', hbind', rfl⟩ := hmemo request result hget
    rw [hfirst, Option.some.injEq, Prod.mk.injEq] at hfirst'
    obtain ⟨rfl, rfl⟩ := hfirst'
    rw [hbind, Except.ok.injEq] at hbind'
    subst hbind'
    exact ⟨memo, rfl, hmemo⟩
  · refine ⟨_, rfl, ?_⟩
    intro request' result h
    rw [Dictionary.get?_insert] at h
    split at h
    · next heq =>
      subst heq
      simp only [Option.some.injEq] at h
      subst h
      exact ⟨i, v, arguments, hfirst, hbind, rfl⟩
    · exact hmemo request' result h

/-- Whether a pass is done with a placeholder: it leaves the settled text or a message. -/
def Settles (plan : Plan) (i : Nat) (available : VariableSet) (memo : Memo) (p : Placeholder) :
    Prop :=
  ∃ token segment memo', Token.classify available plan.known p = some token ∧
    (plan.pass i available).expandToken 0 memo token = (segment, plan.failure? i p, memo') ∧
    plan.Tells memo' ∧
    (plan.failure? i p = none →
      ∃ text, plan.settled? (i + 1) p = some text ∧ segment = .resolved text)

theorem settles_of_escaped (available : VariableSet) (hmemo : plan.Tells memo) {p : Placeholder}
    (hescaped : p.escaped = true) : plan.Settles i available memo p := by
  refine ⟨.escaped p, .resolved p.unescaped, memo, ?_, ?_, hmemo, ?_⟩
  · simp [Token.classify, hescaped]
  · rw [plan.failure?_escaped i hescaped]
    rfl
  · intro _
    exact ⟨p.unescaped, plan.settled?_escaped i hescaped, rfl⟩

/-- The first pass rejects a name that is in no set. -/
theorem settles_of_unknown (hmemo : plan.Tells memo) {p : Placeholder}
    (hescaped : p.escaped = false) (hget : available.get? p.name = none)
    (hfirst : firstWith? p.name plan.sets = none) : plan.Settles 0 available memo p := by
  have hknown : plan.known.contains p.name = false := by
    rw [contains_known, hfirst]
    rfl
  have hfailure : plan.failure? 0 p = some (misplaced p s!"unknown variable '{p.name}'") := by
    simp [failure?, hescaped, hfirst]
  refine ⟨.rejected ⟨p.source, p.span, .unknownVariable p.name⟩,
    .pending p.source (0 + p.span.start), memo, ?_, ?_, hmemo, ?_⟩
  · simp [Token.classify, hescaped, hget, hknown]
  · rw [hfailure]
    rfl
  · rw [hfailure]
    simp

/-- The pass of its set settles a variable by its answer. -/
theorem settles_of_first {p : Placeholder} {v : Variable} (hget : available.get? p.name = some v)
    (hmemo : plan.Tells memo) (hescaped : p.escaped = false)
    (hfirst : firstWith? p.name plan.sets = some (i, v)) : plan.Settles i available memo p := by
  obtain ⟨hsettled, hfailure⟩ := settled?_of_answer hescaped hfirst (Nat.lt_succ_self i)
  -- the tokenizer and the plan bind the same texts, so they reject the same ones
  cases hbind : Arguments.bind p.name v.parameters p.arguments with
  | error e =>
    have hanswer : plan.answer i v p = .error (misplaced p e.message) := by
      simp [answer, hbind]
    rw [hanswer] at hfailure
    refine ⟨.rejected ⟨p.source, p.span, .arguments e⟩, .pending p.source (0 + p.span.start),
      memo, ?_, ?_, hmemo, ?_⟩
    · simp [Token.classify, hescaped, hget, hbind]
    · rw [hfailure]
      rfl
    · rw [hfailure]
      simp
  | ok arguments =>
    have hasked : ∃ memo', (plan.pass i available).result memo v ⟨p.name, p.arguments⟩ arguments =
        (v.resolve arguments (plan.context i), memo') ∧ plan.Tells memo' :=
      result_of_tells available hmemo hfirst hbind
    -- the value may be remembered from another placeholder; `result_of_tells` says that it is
    -- the same one
    obtain ⟨memo', hresult, hmemo'⟩ := hasked
    have hclassify : Token.classify available plan.known p = some (.value p v arguments) := by
      simp [Token.classify, hescaped, hget, hbind]
    cases happly : Fallback.apply (plan.fallbacks.get? v.identifier)
        (v.resolve arguments (plan.context i)) with
    | ok text =>
      rw [answer_of_apply_ok hbind happly] at hsettled hfailure
      refine ⟨.value p v arguments, .resolved text, memo', hclassify, ?_, hmemo', ?_⟩
      · simp only [Pass.expandToken, hresult, pass_fallbacks, happly, hfailure]
      · intro _
        exact ⟨text, hsettled, rfl⟩
    | error e =>
      rw [answer_of_apply_error hbind happly] at hfailure
      refine ⟨.value p v arguments, .pending p.source (0 + p.span.start), memo', hclassify, ?_,
        hmemo', ?_⟩
      · simp only [Pass.expandToken, hresult, pass_fallbacks, happly, hfailure]
      · rw [hfailure]
        simp

/-- A variable of a later set is left alone. -/
theorem classify_of_later (hset : plan.sets[i]? = some available) {p : Placeholder}
    (hescaped : p.escaped = false) (hget : available.get? p.name = none) {j : Nat} {v : Variable}
    (hfirst : firstWith? p.name plan.sets = some (j, v)) (hle : i ≤ j) :
    Token.classify available plan.known p = none ∧ plan.settled? (i + 1) p = none ∧
      plan.failure? i p = none := by
  have hknown : plan.known.contains p.name = true := by
    rw [contains_known, hfirst]
    rfl
  have hne : j ≠ i := by
    rintro rfl
    obtain ⟨s, hs, hv⟩ := get?_of_firstWith? hfirst
    rw [hset, Option.some.injEq] at hs
    rw [← hs, hget] at hv
    simp at hv
  refine ⟨?_, settled?_waiting hescaped hfirst (by omega), ?_⟩
  · simp [Token.classify, hescaped, hget, hknown]
  · simp [failure?, hescaped, hfirst, hne]

/-- What a pass makes of a placeholder that is neither settled nor reported before: nothing, if it
is left to a later pass, and otherwise its settled text or its message. -/
theorem expandToken_of_pending (hset : plan.sets[i]? = some available) (hmemo : plan.Tells memo)
    {p : Placeholder} (hpending : plan.settled? i p = none)
    (hearlier : ∀ j < i, plan.failure? j p = none) :
    (Token.classify available plan.known p = none ∧ plan.settled? (i + 1) p = none ∧
        plan.failure? i p = none) ∨
      plan.Settles i available memo p := by
  cases hescaped : p.escaped with
  | true => exact .inr (settles_of_escaped available hmemo hescaped)
  | false =>
    cases hget : available.get? p.name with
    | some v =>
      -- the set has the name, and no set before it can have it, or else the placeholder
      -- would be settled or reported by now
      obtain ⟨j, w, hfirst, hle, hsame⟩ := exists_firstWith? hset hget
      have hj : j = i := by
        have := le_of_settled?_eq_none hescaped hfirst hpending hearlier
        omega
      obtain rfl := hsame hj
      subst hj
      exact .inr (settles_of_first hget hmemo hescaped hfirst)
    | none =>
      cases hfirst : firstWith? p.name plan.sets with
      | none =>
        -- an unknown name was reported by the first pass, so this is the first one
        have hzero : i = 0 := by
          cases i with
          | zero => rfl
          | succ k =>
            have hunknown := hearlier 0 (Nat.succ_pos k)
            simp [failure?, hescaped, hfirst] at hunknown
        subst hzero
        exact .inr (settles_of_unknown hmemo hescaped hget hfirst)
      | some found =>
        obtain ⟨j, w⟩ := found
        have hle := le_of_settled?_eq_none hescaped hfirst hpending hearlier
        exact .inl (classify_of_later hset hescaped hget hfirst hle)

/-! ### A whole target -/

/-- The parts of a text that was cut into pieces: what is settled, and the template text between.
`held` is the text since the last settled placeholder, which starts at byte `start`. -/
def segments (settled? : Placeholder → Option String) (tail held : List Char) (start : Nat) :
    List (List Char × Placeholder) → List Segment
  | [] => Pass.pendingText start (held ++ tail)
  | (before, p) :: pieces =>
    match settled? p with
    | none => segments settled? tail (held ++ before ++ p.source.toList) start pieces
    | some text =>
      Pass.pendingText start (held ++ before) ++
        .resolved text :: segments settled? tail [] p.span.stop pieces

theorem segments_of_pending {settled? : Placeholder → Option String} {tail held : List Char}
    {start : Nat} {pieces : List (List Char × Placeholder)}
    (h : ∀ piece ∈ pieces, settled? piece.2 = none) :
    segments settled? tail held start pieces =
      Pass.pendingText start (held ++ (Placeholder.piecesText pieces ++ tail)) := by
  induction pieces generalizing held with
  | nil => rfl
  | cons piece pieces ih =>
    obtain ⟨before, p⟩ := piece
    have hp : settled? p = none := h (before, p) List.mem_cons_self
    simp only [segments, hp]
    rw [ih fun piece hpiece => h piece (List.mem_cons_of_mem _ hpiece)]
    simp

/-- A settled placeholder parts what is before it from what is behind it. -/
theorem segments_append {settled? : Placeholder → Option String} {tail held before : List Char}
    {start : Nat} {p : Placeholder} {text : String} {run rest : List (List Char × Placeholder)}
    (h : settled? p = some text) :
    segments settled? tail held start (run ++ (before, p) :: rest) =
      segments settled? before held start run ++
        .resolved text :: segments settled? tail [] p.span.stop rest := by
  induction run generalizing held start with
  | nil => simp only [List.nil_append, segments, h]
  | cons piece run ih =>
    obtain ⟨first, q⟩ := piece
    simp only [List.cons_append, segments]
    cases settled? q with
    | none => exact ih
    | some settled => simp only [ih, List.append_assoc, List.cons_append]

/-- The pieces of a text that the passes before left alone, as the pass leaves them. -/
theorem expandPieces_of_pending (hset : plan.sets[i]? = some available) (tail : List Char)
    {pieces : List (List Char × Placeholder)}
    (hpending : ∀ piece ∈ pieces, plan.settled? i piece.2 = none)
    (hearlier : ∀ piece ∈ pieces, ∀ j < i, plan.failure? j piece.2 = none)
    (memo : Memo) (hmemo : plan.Tells memo) (held : List Char) (start : Nat) :
    ∃ parts memo', (plan.pass i available).expandPieces 0 tail memo held start pieces =
        (parts, pieces.filterMap (fun piece => plan.failure? i piece.2), memo') ∧
      plan.Tells memo' ∧
      ((∀ piece ∈ pieces, plan.failure? i piece.2 = none) →
        parts = segments (plan.settled? (i + 1)) tail held start pieces) := by
  induction pieces generalizing memo held start with
  | nil =>
    refine ⟨Pass.pendingText (0 + start) (held ++ tail), memo, rfl, hmemo, ?_⟩
    intro _
    rw [Nat.zero_add]
    rfl
  | cons piece pieces ih =>
    obtain ⟨before, p⟩ := piece
    have hrest := ih (fun piece hpiece => hpending piece (List.mem_cons_of_mem _ hpiece))
      (fun piece hpiece => hearlier piece (List.mem_cons_of_mem _ hpiece))
    have hfirst := expandToken_of_pending hset hmemo
      (hpending (before, p) List.mem_cons_self) (hearlier (before, p) List.mem_cons_self)
    -- either the placeholder joins the text that is held back, or it ends that text
    rcases hfirst with ⟨hclassify, hsettled, hfailure⟩ |
      ⟨token, part, memo', hclassify, hexpand, hmemo', hpart⟩
    · obtain ⟨parts, memo', hparts, hmemo', hsegments⟩ :=
        hrest memo hmemo (held ++ before ++ p.source.toList) start
      refine ⟨parts, memo', ?_, hmemo', ?_⟩
      · simp only [Pass.expandPieces, pass_available, pass_known, hclassify, hparts,
          List.filterMap_cons, hfailure]
      · intro hnone
        simp only [segments, hsettled]
        exact hsegments fun piece hpiece => hnone piece (List.mem_cons_of_mem _ hpiece)
    · obtain ⟨parts, memo'', hparts, hmemo'', hsegments⟩ := hrest memo' hmemo' [] p.span.stop
      refine ⟨Pass.pendingText (0 + start) (held ++ before) ++ part :: parts, memo'', ?_, hmemo'',
        ?_⟩
      · simp only [Pass.expandPieces, pass_available, pass_known, hclassify, hexpand, hparts,
          List.filterMap_cons]
        cases plan.failure? i p <;> rfl
      · intro hnone
        obtain ⟨text, hsettled, rfl⟩ := hpart (hnone (before, p) List.mem_cons_self)
        simp only [segments, hsettled, Nat.zero_add]
        rw [hsegments fun piece hpiece => hnone piece (List.mem_cons_of_mem _ hpiece)]

/-- A text that is still template text, as the pass leaves it. -/
theorem expandSegments_pendingText (hset : plan.sets[i]? = some available) {cs tail : List Char}
    {start : Nat} {pieces : List (List Char × Placeholder)}
    (hcut : Placeholder.cutFrom start cs = (pieces, tail))
    (hpending : ∀ piece ∈ pieces, plan.settled? i piece.2 = none)
    (hearlier : ∀ piece ∈ pieces, ∀ j < i, plan.failure? j piece.2 = none)
    (hmemo : plan.Tells memo) :
    ∃ parts memo', plan.Tells memo' ∧
      (∀ rest, (plan.pass i available).expandSegments memo (Pass.pendingText start cs ++ rest) =
        (parts ++ ((plan.pass i available).expandSegments memo' rest).1,
          pieces.filterMap (fun piece => plan.failure? i piece.2) ++
            ((plan.pass i available).expandSegments memo' rest).2.1,
          ((plan.pass i available).expandSegments memo' rest).2.2)) ∧
      ((∀ piece ∈ pieces, plan.failure? i piece.2 = none) →
        parts = segments (plan.settled? (i + 1)) tail [] start pieces) := by
  obtain ⟨parts, memo', hparts, hmemo', hsegments⟩ :=
    expandPieces_of_pending hset tail hpending hearlier memo hmemo [] start
  refine ⟨parts, memo', hmemo', ?_, hsegments⟩
  intro rest
  rw [Pass.expandSegments_pendingText, Pass.expandSegments, Pass.expandText_eq, hcut, hparts]

/-- What a pass makes of a target without an error: it settles the placeholders of its set and
leaves its messages, in the order of the template. -/
theorem expandSegments_segments (hset : plan.sets[i]? = some available) {cs tail : List Char}
    {start : Nat} {run pieces : List (List Char × Placeholder)}
    (hcut : Placeholder.cutFrom start cs = (run ++ pieces, tail))
    (hpending : ∀ piece ∈ run, plan.settled? i piece.2 = none)
    (hearlier : ∀ piece ∈ run ++ pieces, ∀ j < i, plan.failure? j piece.2 = none)
    (memo : Memo) (hmemo : plan.Tells memo) :
    ∃ parts memo', (plan.pass i available).expandSegments memo
          (segments (plan.settled? i) tail (Placeholder.piecesText run) start pieces) =
        (parts, (run ++ pieces).filterMap (fun piece => plan.failure? i piece.2), memo') ∧
      plan.Tells memo' ∧
      ((∀ piece ∈ run ++ pieces, plan.failure? i piece.2 = none) →
        parts = segments (plan.settled? (i + 1)) tail [] start (run ++ pieces)) := by
  -- `run` are the pieces of the template text that is being gathered up; a settled
  -- placeholder ends it, and behind the placeholder the next one starts
  induction pieces generalizing cs start run memo with
  | nil =>
    rw [List.append_nil] at hcut hearlier ⊢
    have htext : Placeholder.piecesText run ++ tail = cs := by
      have htext := Placeholder.piecesText_cutFrom start cs
      rwa [hcut] at htext
    obtain ⟨parts, memo', hmemo', hparts, hsegments⟩ :=
      expandSegments_pendingText hset hcut hpending hearlier hmemo
    refine ⟨parts, memo', ?_, hmemo', hsegments⟩
    have hrest := hparts []
    simp only [List.append_nil, Pass.expandSegments] at hrest
    rw [segments, htext, hrest]
  | cons piece pieces ih =>
    obtain ⟨before, p⟩ := piece
    cases hp : plan.settled? i p with
    | none =>
      have hgathered : ∀ piece ∈ run ++ [(before, p)], plan.settled? i piece.2 = none := by
        intro piece hpiece
        rcases List.mem_append.1 hpiece with hpiece | hpiece
        · exact hpending piece hpiece
        · rw [List.mem_singleton.1 hpiece, hp]
      have happend : run ++ (before, p) :: pieces = (run ++ [(before, p)]) ++ pieces := by simp
      have htext : Placeholder.piecesText (run ++ [(before, p)]) =
          Placeholder.piecesText run ++ before ++ p.source.toList := by simp
      rw [happend] at hcut hearlier ⊢
      simp only [segments, hp]
      rw [← htext]
      exact ih hcut hgathered hearlier memo hmemo
    | some text =>
      -- the gathered text is cut before `p` as the template is, and so is what stands behind `p`
      obtain ⟨hsettled, hfailure⟩ := settled?_succ hp
      have hrun : ∀ piece ∈ run, ∀ j < i, plan.failure? j piece.2 = none := by
        intro piece hpiece
        exact hearlier piece (List.mem_append_left _ hpiece)
      obtain ⟨parts, memo', hmemo', hparts, hsegments⟩ := expandSegments_pendingText hset
        (Placeholder.cutFrom_before hcut) hpending hrun hmemo
      obtain ⟨others, hothers⟩ := Placeholder.exists_cutFrom_after hcut
      have hcut' : Placeholder.cutFrom p.span.stop others = ([] ++ pieces, tail) := hothers
      have hbehind : ∀ piece ∈ [] ++ pieces, ∀ j < i, plan.failure? j piece.2 = none := by
        intro piece hpiece
        exact hearlier piece (List.mem_append_right _ (List.mem_cons_of_mem _ hpiece))
      obtain ⟨parts', memo'', hparts', hmemo'', hsegments'⟩ :=
        ih hcut' (by simp) hbehind memo' hmemo'
      refine ⟨parts ++ .resolved text :: parts', memo'', ?_, hmemo'', ?_⟩
      · rw [segments, hp]
        simp only [hparts, Pass.expandSegments]
        rw [Placeholder.piecesText_nil] at hparts'
        simp [hparts', hfailure]
      · intro hnone
        rw [segments_append hsettled, hsegments, hsegments', List.nil_append]
        · intro piece hpiece
          exact hnone piece (List.mem_append_right _ (List.mem_cons_of_mem _ hpiece))
        · intro piece hpiece
          exact hnone piece (List.mem_append_left _ hpiece)

end Plan

end CommandTemplates
