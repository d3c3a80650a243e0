/-
What a pass asks the variables for.

A target asks for a value with each placeholder in its template text, the parts that
no pass has settled, unless it has an error already.  All that a pass does to what is
remembered is to answer these requests, one after the other.

* `Expansion.memo_runPass` — a pass is a run of `Pass.ask` over `Expansion.requests`;
* `Pass.result_of_remembered` — what is remembered is answered without a variable;
* `Memo.Counted` — what is made is remembered, and never made again;
* `Pass.mem_generated_foldl_ask` — what a run of requests makes;
* `Plan.Describes.requests_eq` — which placeholders of its template a target asks for
  after some passes.
-/
import CommandTemplates.Proofs.Template.Lifecycle

namespace CommandTemplates

/-! ### Requests -/

/-- What a placeholder asks for; nothing if it is escaped. -/
def Placeholder.request? (p : Placeholder) : Option Request :=
  if p.escaped then none else some ⟨p.name, p.arguments⟩

theorem Placeholder.request?_eq_some_iff {p : Placeholder} {request : Request} :
    p.request? = some request ↔
      p.escaped = false ∧ p.name = request.name ∧ p.arguments = request.arguments := by
  obtain ⟨name, arguments⟩ := request
  cases hescaped : p.escaped <;> simp [request?, hescaped]

/-- What a part of a target asks for, from left to right. -/
def Segment.requests : Segment → List Request
  | .resolved _ => []
  | .pending text _ => (Placeholder.scan text).filterMap (·.request?)

/-- What a target asks for; nothing if it has an error. -/
def Target.requests (t : Target) : List Request :=
  if t.isFailed then [] else t.segments.flatMap (·.requests)

/-- What all targets ask for, in their order. -/
def Expansion.requests (x : Expansion) : List Request := x.targets.values.flatMap (·.requests)

namespace Pass

variable {pass : Pass} {memo : Memo} {request : Request} {v : Variable} {arguments : Arguments}

/-- Whether the pass has a variable for a request, with arguments that suit it. -/
structure Answers (pass : Pass) (request : Request) (v : Variable) (arguments : Arguments) :
    Prop where
  available : pass.available.get? request.name = some v
  bound : Arguments.bind request.name v.parameters request.arguments = .ok arguments

/-- What is remembered after a request. -/
def ask (pass : Pass) (memo : Memo) (request : Request) : Memo :=
  match pass.available.get? request.name with
  | none => memo
  | some v =>
    match Arguments.bind request.name v.parameters request.arguments with
    | .error _ => memo
    | .ok arguments => (pass.result memo v request arguments).2

theorem ask_of_answers (h : pass.Answers request v arguments) (memo : Memo) :
    pass.ask memo request = (pass.result memo v request arguments).2 := by
  simp only [ask, h.available, h.bound]

theorem ask_of_not_answers (h : ¬ ∃ v arguments, pass.Answers request v arguments)
    (memo : Memo) : pass.ask memo request = memo := by
  unfold ask
  split
  · rfl
  · next v hget =>
    split
    · rfl
    · next arguments hbind => exact absurd ⟨v, arguments, hget, hbind⟩ h

/-- What a pass makes of a placeholder touches what is remembered by its request alone. -/
theorem memo_expandToken (pass : Pass) (origin : Nat) (memo : Memo) (p : Placeholder) :
    (match Token.classify pass.available pass.known p with
      | none => memo
      | some token => (pass.expandToken origin memo token).2.2) =
      p.request?.toList.foldl pass.ask memo := by
  cases hescaped : p.escaped with
  | true => simp [Token.classify, Placeholder.request?, hescaped, expandToken]
  | false =>
    simp only [Placeholder.request?, hescaped, Token.classify, Bool.false_eq_true, if_false,
      Option.toList_some, List.foldl_cons, List.foldl_nil, ask]
    cases pass.available.get? p.name with
    | none => cases pass.known.contains p.name <;> rfl
    | some v =>
      dsimp only
      cases Arguments.bind p.name v.parameters p.arguments with
      | error e => rfl
      | ok arguments =>
        simp only [expandToken]
        split <;> rfl

theorem memo_expandPieces (pass : Pass) (origin : Nat) (tail : List Char) (memo : Memo)
    (held : List Char) (start : Nat) (pieces : List (List Char × Placeholder)) :
    (pass.expandPieces origin tail memo held start pieces).2.2 =
      ((pieces.map Prod.snd).filterMap (·.request?)).foldl pass.ask memo := by
  induction pieces generalizing memo held start with
  | nil => rfl
  | cons piece pieces ih =>
    obtain ⟨before, p⟩ := piece
    have htoken := pass.memo_expandToken origin memo p
    have hcons : (((before, p) :: pieces).map Prod.snd).filterMap (·.request?) =
        p.request?.toList ++ (pieces.map Prod.snd).filterMap (·.request?) := by
      rw [List.map_cons, List.filterMap_cons]
      cases p.request? <;> rfl
    rw [hcons, List.foldl_append, ← htoken, expandPieces]
    cases Token.classify pass.available pass.known p with
    | none => exact ih memo _ start
    | some token => exact ih _ [] p.span.stop

theorem memo_expandSegments (pass : Pass) (memo : Memo) (segments : List Segment) :
    (pass.expandSegments memo segments).2.2 =
      (segments.flatMap (·.requests)).foldl pass.ask memo := by
  induction segments generalizing memo with
  | nil => rfl
  | cons segment segments ih =>
    rw [List.flatMap_cons, List.foldl_append]
    cases segment with
    | resolved text => exact ih memo
    | pending text origin =>
      have htext : (pass.expandText memo text origin).2.2 =
          ((Placeholder.scan text).filterMap (·.request?)).foldl pass.ask memo :=
        pass.memo_expandPieces origin (Placeholder.cut text).2 memo [] 0 (Placeholder.cut text).1
      rw [Segment.requests, ← htext]
      exact ih _

end Pass

theorem Target.memo_run (pass : Pass) (memo : Memo) (t : Target) :
    (t.run pass memo).2 = t.requests.foldl pass.ask memo := by
  unfold Target.run Target.requests
  split
  · rfl
  · exact pass.memo_expandSegments memo t.segments

theorem Target.memo_passEntries (pass : Pass) (memo : Memo) (entries : List (String × Target)) :
    (Dictionary.passEntries (Target.run pass) memo entries).2 =
      ((entries.map Prod.snd).flatMap (·.requests)).foldl pass.ask memo := by
  induction entries generalizing memo with
  | nil => rfl
  | cons e entries ih =>
    obtain ⟨key, t⟩ := e
    rw [List.map_cons, List.flatMap_cons, List.foldl_append, ← Target.memo_run]
    exact ih _

/-- A pass answers the requests of the targets one after the other. -/
theorem Expansion.memo_runPass {x : Expansion} {i : Nat} {available : VariableSet}
    (h : x.sets[i]? = some available) (ctx : Context) :
    (x.runPass ctx i).memo =
      x.requests.foldl (Pass.ask ⟨i, available, x.known, x.fallbacks, ctx⟩) x.memo := by
  simp only [Expansion.runPass, h]
  exact Target.memo_passEntries _ x.memo x.targets.entries

/-! ### What is remembered -/

/-- A memo that counts right: what was made is remembered, and was made once. -/
structure Memo.Counted (memo : Memo) : Prop where
  nodup : (memo.generated.map (·.request)).Nodup
  remembered : ∀ g ∈ memo.generated, memo.results.get? g.request ≠ none

theorem Memo.counted_empty : Memo.Counted {} := ⟨List.nodup_nil, by simp⟩

namespace Pass

variable {pass : Pass} {memo : Memo} {request : Request} {v : Variable} {arguments : Arguments}

/-- A request that is remembered is answered from memory: whichever variable it is for, and on
whichever arguments, the result is the remembered one and nothing is added to it. -/
theorem result_of_remembered {result : Except VariableError String}
    (h : memo.results.get? request = some result) (pass : Pass) (v : Variable)
    (arguments : Arguments) : pass.result memo v request arguments = (result, memo) := by
  rw [Pass.result, h]

theorem get?_result (pass : Pass) (memo : Memo) (v : Variable) (request : Request)
    (arguments : Arguments) (other : Request) :
    (pass.result memo v request arguments).2.results.get? other ≠ none ↔
      memo.results.get? other ≠ none ∨ other = request := by
  unfold result
  split
  · next result hresult =>
    refine ⟨.inl, ?_⟩
    rintro (h | rfl)
    · exact h
    · simp [hresult]
  · rw [Dictionary.get?_insert]
    by_cases hother : request = other
    · simp [hother]
    · simp [hother, Ne.symm hother]

theorem mem_generated_result (pass : Pass) (memo : Memo) (v : Variable) (request : Request)
    (arguments : Arguments) (g : Generation) :
    g ∈ (pass.result memo v request arguments).2.generated ↔
      g ∈ memo.generated ∨
        (g = ⟨pass.index, request⟩ ∧ memo.results.get? request = none ∧
          v.refusal? pass.context = none) := by
  unfold result
  split
  · next hresult => simp [hresult]
  · next hresult =>
    cases hrefusal : v.refusal? pass.context with
    | none => simp [hresult]
    | some e => simp [hresult]

/-- Asking a variable for a value is counted once and remembered. -/
theorem counted_result (h : memo.Counted) (v : Variable) (request : Request)
    (arguments : Arguments) : (pass.result memo v request arguments).2.Counted := by
  constructor
  · unfold result
    split
    · exact h.nodup
    · next hresult =>
      dsimp only
      split
      · rw [List.map_append, List.map_singleton, List.nodup_append]
        refine ⟨h.nodup, by simp, ?_⟩
        -- what is made now was not remembered, so it was not made before
        intro made hmade last hlast heq
        obtain ⟨g, hg, rfl⟩ := List.mem_map.1 hmade
        rw [List.mem_singleton] at hlast
        exact h.remembered g hg (heq ▸ hlast ▸ hresult)
      · exact h.nodup
  · intro g hg
    rw [get?_result]
    rcases (mem_generated_result pass memo v request arguments g).1 hg with hg | ⟨rfl, -, -⟩
    · exact .inl (h.remembered g hg)
    · exact .inr rfl

theorem counted_ask (h : memo.Counted) (request : Request) : (pass.ask memo request).Counted := by
  unfold ask
  split
  · exact h
  · split
    · exact h
    · exact counted_result h _ request _

theorem counted_foldl_ask (h : memo.Counted) (requests : List Request) :
    (requests.foldl pass.ask memo).Counted := by
  induction requests generalizing memo with
  | nil => exact h
  | cons request requests ih => exact ih (counted_ask h request)

theorem get?_ask (pass : Pass) (memo : Memo) (request other : Request) :
    (pass.ask memo request).results.get? other ≠ none ↔
      memo.results.get? other ≠ none ∨
        (other = request ∧ ∃ v arguments, pass.Answers other v arguments) := by
  by_cases h : ∃ v arguments, pass.Answers request v arguments
  · obtain ⟨v, arguments, hanswers⟩ := h
    rw [ask_of_answers hanswers, get?_result]
    refine or_congr_right ⟨?_, And.left⟩
    rintro rfl
    exact ⟨rfl, v, arguments, hanswers⟩
  · rw [ask_of_not_answers h]
    refine ⟨.inl, ?_⟩
    rintro (hother | ⟨rfl, hanswers⟩)
    · exact hother
    · exact absurd hanswers h

/-- What is remembered after a run of requests. -/
theorem get?_foldl_ask (pass : Pass) (requests : List Request) (memo : Memo) (other : Request) :
    (requests.foldl pass.ask memo).results.get? other ≠ none ↔
      memo.results.get? other ≠ none ∨
        (other ∈ requests ∧ ∃ v arguments, pass.Answers other v arguments) := by
  induction requests generalizing memo with
  | nil => simp
  | cons request requests ih =>
    rw [List.foldl_cons, ih, get?_ask, or_assoc, List.mem_cons, or_and_right]

/-- Arguments are bound in one way only. -/
theorem Answers.unique {w : Variable} {others : Arguments} (h : pass.Answers request v arguments)
    (h' : pass.Answers request w others) : w = v ∧ others = arguments := by
  obtain rfl : v = w := Option.some.inj (h.available.symm.trans h'.available)
  exact ⟨rfl, (Except.ok.inj (h.bound.symm.trans h'.bound)).symm⟩

theorem mem_generated_ask (pass : Pass) (memo : Memo) (request : Request) (g : Generation) :
    g ∈ (pass.ask memo request).generated ↔
      g ∈ memo.generated ∨
        (g = ⟨pass.index, request⟩ ∧ memo.results.get? request = none ∧
          ∃ v arguments, pass.Answers request v arguments ∧ v.refusal? pass.context = none) := by
  by_cases h : ∃ v arguments, pass.Answers request v arguments
  · obtain ⟨v, arguments, hanswers⟩ := h
    rw [ask_of_answers hanswers, mem_generated_result]
    refine or_congr_right (and_congr_right fun _ => and_congr_right fun _ => ?_)
    constructor
    · intro haccepted
      exact ⟨v, arguments, hanswers, haccepted⟩
    · rintro ⟨w, others, hanswers', haccepted⟩
      obtain ⟨rfl, rfl⟩ := hanswers.unique hanswers'
      exact haccepted
  · rw [ask_of_not_answers h]
    refine ⟨.inl, ?_⟩
    rintro (hg | ⟨-, -, v, arguments, hanswers, -⟩)
    · exact hg
    · exact absurd ⟨v, arguments, hanswers⟩ h

/-- What a run of requests makes: a value for each that was not remembered, if the pass has a
variable for it that does not refuse. -/
theorem mem_generated_foldl_ask (pass : Pass) (requests : List Request) (memo : Memo)
    (g : Generation) :
    g ∈ (requests.foldl pass.ask memo).generated ↔
      g ∈ memo.generated ∨
        (g.pass = pass.index ∧ g.request ∈ requests ∧ memo.results.get? g.request = none ∧
          ∃ v arguments, pass.Answers g.request v arguments ∧
            v.refusal? pass.context = none) := by
  induction requests generalizing memo with
  | nil => simp
  | cons request requests ih =>
    rw [List.foldl_cons, ih, mem_generated_ask, or_assoc]
    refine or_congr_right ?_
    have hremembered := pass.get?_ask memo request g.request
    have heta : g = ⟨pass.index, request⟩ ↔ g.pass = pass.index ∧ g.request = request := by
      cases g
      simp
    rw [heta, List.mem_cons]
    constructor
    · rintro (⟨⟨hpass, hrequest⟩, hnew, hanswers⟩ | ⟨hpass, hmem, hnew, hanswers⟩)
      · exact ⟨hpass, .inl hrequest, hrequest ▸ hnew, hrequest ▸ hanswers⟩
      · refine ⟨hpass, .inr hmem, ?_, hanswers⟩
        by_contra hold
        exact hremembered.2 (.inl hold) hnew
    · rintro ⟨hpass, hmem, hnew, v, arguments, hanswers, haccepted⟩
      -- made by this request, or by a later one that is another request
      by_cases hrequest : g.request = request
      · exact .inl ⟨⟨hpass, hrequest⟩, hrequest ▸ hnew, v, arguments, hrequest ▸ hanswers,
          haccepted⟩
      · have hrest := hmem.resolve_left hrequest
        refine .inr ⟨hpass, hrest, ?_, v, arguments, hanswers, haccepted⟩
        by_contra hold
        rcases hremembered.1 hold with hold | ⟨hsame, -⟩
        · exact hold hnew
        · exact hrequest hsame

end Pass

/-! ### The requests of a target after some passes -/

namespace Plan

variable {plan : Plan} {k : Nat} {t : Target}

theorem requests_pendingText (start : Nat) (cs : List Char) :
    (Pass.pendingText start cs).flatMap (·.requests) =
      ((Placeholder.cutFrom start cs).1.map Prod.snd).filterMap (·.request?) := by
  by_cases hcs : cs = []
  · subst hcs
    rw [Placeholder.cutFrom_of_noWordIn (Placeholder.noWordIn_nil [])]
    rfl
  · have hshift : (·.request?) ∘ (·.shift start) = Placeholder.request? := rfl
    have hscan := Placeholder.map_cutFrom_eq_scan start (String.ofList cs)
    rw [String.toList_ofList] at hscan
    rw [hscan, List.filterMap_map, hshift]
    simp [Pass.pendingText, hcs, Segment.requests]

/-- The parts of a cut text ask for what its placeholders ask for that are not settled. -/
theorem requests_segments (settled? : Placeholder → Option String) {cs tail : List Char}
    {start : Nat} {run pieces : List (List Char × Placeholder)}
    (hcut : Placeholder.cutFrom start cs = (run ++ pieces, tail))
    (hpending : ∀ piece ∈ run, settled? piece.2 = none) :
    (segments settled? tail (Placeholder.piecesText run) start pieces).flatMap (·.requests) =
      (((run ++ pieces).map Prod.snd).filter fun p => (settled? p).isNone).filterMap
        (·.request?) := by
  have hrun : ∀ run : List (List Char × Placeholder), (∀ piece ∈ run, settled? piece.2 = none) →
      ((run.map Prod.snd).filter fun p => (settled? p).isNone) = run.map Prod.snd := by
    intro run hpending
    rw [List.filter_eq_self]
    intro p hp
    obtain ⟨piece, hpiece, rfl⟩ := List.mem_map.1 hp
    rw [hpending piece hpiece]
    rfl
  -- as in `expandSegments_segments`: `run` are the pieces of the template text that is being
  -- gathered up, and a settled placeholder ends it
  induction pieces generalizing cs start run with
  | nil =>
    rw [List.append_nil] at hcut ⊢
    have htext : Placeholder.piecesText run ++ tail = cs := by
      have htext := Placeholder.piecesText_cutFrom start cs
      rwa [hcut] at htext
    rw [segments, htext, requests_pendingText, hcut, hrun run hpending]
  | cons piece pieces ih =>
    obtain ⟨before, p⟩ := piece
    cases hp : settled? p with
    | none =>
      have hgathered : ∀ piece ∈ run ++ [(before, p)], settled? piece.2 = none := by
        intro piece hpiece
        rcases List.mem_append.1 hpiece with hpiece | hpiece
        · exact hpending piece hpiece
        · rw [List.mem_singleton.1 hpiece, hp]
      have happend : run ++ (before, p) :: pieces = (run ++ [(before, p)]) ++ pieces := by simp
      have htext : Placeholder.piecesText (run ++ [(before, p)]) =
          Placeholder.piecesText run ++ before ++ p.source.toList := by simp
      rw [happend] at hcut ⊢
      simp only [segments, hp]
      rw [← htext]
      exact ih hcut hgathered
    | some text =>
      -- the settled placeholder asks for nothing; the text before it and the rest are cut by
      -- themselves
      obtain ⟨others, hothers⟩ := Placeholder.exists_cutFrom_after hcut
      have hcut' : Placeholder.cutFrom p.span.stop others = ([] ++ pieces, tail) := hothers
      have hbehind := ih hcut' (by simp)
      rw [Placeholder.piecesText_nil, List.nil_append] at hbehind
      simp only [segments, hp]
      rw [List.flatMap_append, List.flatMap_cons, requests_pendingText,
        Placeholder.cutFrom_before hcut, hbehind, Segment.requests, List.nil_append,
        List.map_append, List.map_cons, List.filter_append, List.filterMap_append,
        hrun run hpending,
        List.filter_cons_of_neg (by simp [hp])]

/-- A target without an error asks for what the placeholders of its template ask for that are not
settled. -/
theorem Describes.requests_eq (h : plan.Describes k t) (hnone : t.errors = []) :
    t.requests = ((Placeholder.scan t.template).filter fun p =>
      (plan.settled? k p).isNone).filterMap (·.request?) := by
  have hfailed : t.isFailed = false := by simp [Target.isFailed, hnone]
  have hcut : Placeholder.cutFrom 0 t.template.toList =
      ([] ++ (Placeholder.cut t.template).1, (Placeholder.cut t.template).2) := rfl
  rw [Target.requests, hfailed, if_neg Bool.false_ne_true, h.segments hnone]
  cases k with
  | succ k => exact requests_segments (plan.settled? (k + 1)) hcut (by simp)
  | zero =>
    have hall : (Placeholder.scan t.template).filter (fun p => (plan.settled? 0 p).isNone) =
        Placeholder.scan t.template := by simp
    rw [hall]
    simp [segmentsAfter, Segment.requests]

end Plan

end CommandTemplates
