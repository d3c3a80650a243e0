/-
Date formats are read by longest tokens.

`DateToken.all` is searched for the first token that stands at a position, and texts in
brackets are tried before that.  What a format means is said here without an order among
the tokens: at each position the longest token that starts there is rendered, and a
character that starts none is copied.

* `DateToken.length_le_of_ofStart?` — the first token found is the longest, as no token
  comes before a longer one that it is the beginning of;
* `FormatPiece.readPiece_spec` — what is read at a position is the longest token there,
  and a plain character only where no token starts;
* `FormatPiece.pieces_before_bracket` — what stands in front of an opening bracket is
  read as if it stood alone;
* `Moment.writes_pieces`, `Moment.Writes.eq_pieces` — whole formats, in both directions;
* `Moment.format_takes_longest` — what comes of them.
-/
import CommandTemplates.Calendar.Format
import Mathlib.Data.List.Nodup
import Mathlib.Data.List.TakeWhile

namespace CommandTemplates

namespace DateToken

/-! ### The letters of tokens -/

theorem bracket_notMem_spelling (t : DateToken) : '[' ∉ t.spelling := by
  cases t <;> decide

theorem not_prefix_bracket (t : DateToken) (cs : List Char) : ¬ t.spelling <+: '[' :: cs := by
  rintro ⟨rest, hrest⟩
  cases hspelling : t.spelling with
  | nil => exact t.spelling_ne_nil hspelling
  | cons c letters =>
    have hc : c = '[' := by simp_all
    exact t.bracket_notMem_spelling (hspelling ▸ hc ▸ List.mem_cons_self)

theorem nodup_map_spelling : (all.map spelling).Nodup := by
  decide

theorem spelling_injective {t t' : DateToken} (h : t.spelling = t'.spelling) : t = t' :=
  List.inj_on_of_nodup_map nodup_map_spelling t.mem_all t'.mem_all h

/-- No token is the beginning of one that comes later. -/
theorem all_pairwise : all.Pairwise fun t t' => ¬ t.spelling <+: t'.spelling := by
  decide

theorem spelling_prefix_of_ofStart? {cs : List Char} {t : DateToken} (h : ofStart? cs = some t) :
    t.spelling <+: cs := by
  have hstarts := List.find?_some h
  simpa using hstarts

theorem length_le_of_ofStart? {cs : List Char} {t t' : DateToken} (h : ofStart? cs = some t)
    (hstarts' : t'.spelling <+: cs) : t'.spelling.length ≤ t.spelling.length := by
  have hstarts := spelling_prefix_of_ofStart? h
  obtain ⟨-, earlier, later, hall, hnone⟩ := List.find?_eq_some_iff_append.1 h
  by_contra hlonger
  -- both stand at the start of one text, so the shorter one begins the other
  have hbegins : t.spelling <+: t'.spelling :=
    List.prefix_of_prefix_length_le hstarts hstarts' (Nat.le_of_not_le hlonger)
  have hmem : t' ∈ earlier ++ t :: later := hall ▸ t'.mem_all
  rcases List.mem_append.1 hmem with hearlier | htail
  · have hrefused := hnone t' hearlier
    rw [List.isPrefixOf_iff_prefix.2 hstarts'] at hrefused
    exact Bool.false_ne_true hrefused
  · rcases List.mem_cons.1 htail with rfl | hlater
    · exact hlonger (Nat.le_refl _)
    · have hpairwise := all_pairwise
      rw [hall, List.pairwise_append, List.pairwise_cons] at hpairwise
      exact hpairwise.2.1.1 t' hlater hbegins

end DateToken

namespace FormatPiece

variable {c : Char} {cs word other rest text : List Char} {piece p : FormatPiece}

/-! ### Words with a meaning -/

/-- The words of a format that have a meaning of their own, with the pieces that they are: a text
in brackets up to the first closing one, and the letters of a date token. -/
inductive IsToken : List Char → FormatPiece → Prop
  | literal {text : List Char} (h : ']' ∉ text) : IsToken ('[' :: (text ++ [']'])) (.literal text)
  | letters (t : DateToken) : IsToken t.spelling (.token t)

/-- The longest word with a meaning that a text starts with. -/
structure IsLongest (cs word : List Char) (piece : FormatPiece) : Prop where
  isToken : IsToken word piece
  starts : word <+: cs
  longest : ∀ other p, IsToken other p → other <+: cs → other.length ≤ word.length

theorem IsToken.ne_nil (h : IsToken word piece) : word ≠ [] := by
  cases h with
  | literal => exact List.cons_ne_nil _ _
  | letters t => exact t.spelling_ne_nil

theorem IsToken.unique (h : IsToken word piece) (h' : IsToken word p) : piece = p := by
  generalize hword : word = word' at h'
  cases h with
  | literal =>
    cases h' with
    | literal => simp_all
    | letters t => exact absurd (hword ▸ List.mem_cons_self) t.bracket_notMem_spelling
  | letters t =>
    cases h' with
    | literal => exact absurd (hword ▸ List.mem_cons_self) t.bracket_notMem_spelling
    | letters t' => rw [DateToken.spelling_injective hword]

theorem IsLongest.unique (h : IsLongest cs word piece) (h' : IsLongest cs other p) :
    word = other ∧ piece = p := by
  have hbegins : word <+: other :=
    List.prefix_of_prefix_length_le h.starts h'.starts (h'.longest _ _ h.isToken h.starts)
  have hsame : word = other := hbegins.eq_of_length_le (h.longest _ _ h'.isToken h'.starts)
  subst hsame
  exact ⟨rfl, h.isToken.unique h'.isToken⟩

/-! ### Brackets -/

theorem readLiteral?_append (h : ']' ∉ text) :
    readLiteral? (text ++ ']' :: rest) = some (text, rest) := by
  have hinside : ∀ d ∈ text, decide (d ≠ ']') = true := by
    intro d hd
    exact decide_eq_true fun heq => h (heq ▸ hd)
  rw [readLiteral?, List.dropWhile_append_of_pos hinside, List.takeWhile_append_of_pos hinside]
  simp

theorem eq_of_readLiteral? (h : readLiteral? cs = some (text, rest)) :
    ']' ∉ text ∧ cs = text ++ ']' :: rest := by
  rw [readLiteral?] at h
  split at h
  · simp at h
  · next d after hafter =>
    obtain ⟨rfl, rfl⟩ := Prod.mk.inj (Option.some.inj h)
    have hsplit := List.takeWhile_append_dropWhile (p := fun d => decide (d ≠ ']')) (l := cs)
    have hd : ¬ decide (d ≠ ']') = true := by
      have hhead := List.head?_dropWhile_not (fun d => decide (d ≠ ']')) cs
      rw [hafter] at hhead
      simpa using hhead
    obtain rfl : d = ']' := by simpa using hd
    refine ⟨fun hmem => ?_, ?_⟩
    · simpa using List.mem_takeWhile_imp hmem
    · rw [← hafter, hsplit]

/-- Brackets that a format starts with are what is read there. -/
theorem readLiteral?_of_prefix (h : ']' ∉ text) (hstarts : '[' :: (text ++ [']']) <+: c :: cs) :
    c = '[' ∧ ∃ rest, readLiteral? cs = some (text, rest) := by
  obtain ⟨rest, hrest⟩ := hstarts
  obtain ⟨rfl, rfl⟩ : '[' = c ∧ text ++ ']' :: rest = cs := by simpa using hrest
  exact ⟨rfl, rest, readLiteral?_append h⟩

/-! ### Reading one piece -/

theorem isLongest_literal (h : readLiteral? cs = some (text, rest)) :
    IsLongest ('[' :: cs) ('[' :: (text ++ [']'])) (.literal text) := by
  obtain ⟨hopen, hcs⟩ := eq_of_readLiteral? h
  refine ⟨.literal hopen, ⟨rest, by simp [hcs]⟩, fun other p hother hstarts => ?_⟩
  -- brackets end at the first closing one, so there is one such token here, and no letters
  -- start with a bracket
  cases hother with
  | @literal text' h' =>
    obtain ⟨-, rest', hread⟩ := readLiteral?_of_prefix h' hstarts
    obtain ⟨rfl, -⟩ : text = text' ∧ rest = rest' := by simpa [h] using hread
    exact Nat.le_refl _
  | letters t => exact absurd hstarts (t.not_prefix_bracket cs)

theorem isLongest_letters {t : DateToken} (hbracket : c = '[' → readLiteral? cs = none)
    (h : DateToken.ofStart? (c :: cs) = some t) : IsLongest (c :: cs) t.spelling (.token t) := by
  refine ⟨.letters t, DateToken.spelling_prefix_of_ofStart? h, fun other p hother hstarts => ?_⟩
  cases hother with
  | literal hopen =>
    obtain ⟨hc, rest, hread⟩ := readLiteral?_of_prefix hopen hstarts
    simp [hbracket hc] at hread
  | letters t' => exact DateToken.length_le_of_ofStart? h hstarts

theorem not_prefix_of_ofStart? (hbracket : c = '[' → readLiteral? cs = none)
    (h : DateToken.ofStart? (c :: cs) = none) (hword : IsToken word p) : ¬ word <+: c :: cs := by
  intro hstarts
  cases hword with
  | literal hopen =>
    obtain ⟨hc, rest, hread⟩ := readLiteral?_of_prefix hopen hstarts
    simp [hbracket hc] at hread
  | letters t => exact List.find?_eq_none.1 h t t.mem_all (List.isPrefixOf_iff_prefix.2 hstarts)

/-- What is read at a position is the longest token that starts there, with the text after it, or
the character itself if none does. -/
theorem readPiece_spec (c : Char) (cs : List Char) :
    (∃ word, IsLongest (c :: cs) word (readPiece c cs).1 ∧ c :: cs = word ++ (readPiece c cs).2) ∨
      ((∀ word p, IsToken word p → ¬ word <+: c :: cs) ∧ readPiece c cs = (.plain c, cs)) := by
  unfold readPiece
  cases hliteral : (if c = '[' then readLiteral? cs else none) with
  | some read =>
    obtain ⟨text, rest⟩ := read
    obtain ⟨rfl, hread⟩ : c = '[' ∧ readLiteral? cs = some (text, rest) := by
      simpa using hliteral
    refine .inl ⟨_, isLongest_literal hread, ?_⟩
    simp [(eq_of_readLiteral? hread).2]
  | none =>
    -- without a closing bracket, an opening one is a character like any other
    have hbracket : c = '[' → readLiteral? cs = none := by simpa using hliteral
    cases hstart : DateToken.ofStart? (c :: cs) with
    | some t =>
      refine .inl ⟨_, isLongest_letters hbracket hstart, ?_⟩
      obtain ⟨rest, hrest⟩ := DateToken.spelling_prefix_of_ofStart? hstart
      cases hspelling : t.spelling with
      | nil => exact absurd hspelling t.spelling_ne_nil
      | cons d letters =>
        obtain ⟨rfl, rfl⟩ : d = c ∧ letters ++ rest = cs := by simpa [hspelling] using hrest
        simp [hspelling]
    | none => exact .inr ⟨fun _ _ => not_prefix_of_ofStart? hbracket hstart, rfl⟩

/-! ### Whole formats -/

theorem pieces_of_isLongest (h : IsLongest (word ++ rest) word piece) :
    pieces (word ++ rest) = piece :: pieces rest := by
  cases hcs : word ++ rest with
  | nil => exact absurd (List.append_eq_nil_iff.1 hcs).1 h.isToken.ne_nil
  | cons c cs =>
    rw [hcs] at h
    rcases readPiece_spec c cs with ⟨word', h', hcs'⟩ | ⟨hnone, -⟩
    · obtain ⟨rfl, rfl⟩ := h.unique h'
      rw [pieces, List.append_cancel_left (hcs.trans hcs')]
    · exact absurd h.starts (hnone _ _ h.isToken)

theorem pieces_plain (h : ∀ word p, IsToken word p → ¬ word <+: c :: cs) :
    pieces (c :: cs) = .plain c :: pieces cs := by
  rcases readPiece_spec c cs with ⟨word, hlongest, -⟩ | ⟨-, hread⟩
  · exact absurd hlongest.starts (h _ _ hlongest.isToken)
  · rw [pieces, hread]

/-! ### Text in front of an opening bracket -/

theorem prefix_of_bracket_notMem (hword : '[' ∉ word) (hstarts : word <+: cs ++ '[' :: rest) :
    word <+: cs := by
  induction cs generalizing word with
  | nil =>
    cases word with
    | nil => exact List.nil_prefix
    | cons d word =>
      have hd : d = '[' := (List.cons_prefix_cons.1 hstarts).1
      exact absurd (hd ▸ List.mem_cons_self) hword
  | cons c cs ih =>
    cases word with
    | nil => exact List.nil_prefix
    | cons d word =>
      obtain ⟨rfl, htail⟩ := List.cons_prefix_cons.1 hstarts
      exact List.cons_prefix_cons.2 ⟨rfl, ih (fun h => hword (List.mem_cons_of_mem _ h)) htail⟩

/-- A token that starts in front of an opening bracket does not reach it. -/
theorem IsToken.prefix_of_before_bracket (h : IsToken word piece) (hbefore : '[' ∉ c :: cs)
    (hstarts : word <+: c :: cs ++ '[' :: rest) : word <+: c :: cs := by
  cases h with
  | literal =>
    have hc : '[' = c := (List.cons_prefix_cons.1 hstarts).1
    exact absurd (hc ▸ List.mem_cons_self) hbefore
  | letters t => exact prefix_of_bracket_notMem t.bracket_notMem_spelling hstarts

theorem IsLongest.before_bracket (h : IsLongest (c :: cs) word piece) (hbefore : '[' ∉ c :: cs) :
    IsLongest (c :: cs ++ '[' :: rest) word piece where
  isToken := h.isToken
  starts := h.starts.trans (List.prefix_append _ _)
  longest other p hother hstarts :=
    h.longest other p hother (hother.prefix_of_before_bracket hbefore hstarts)

theorem pieces_before_bracket (hbefore : '[' ∉ cs) :
    pieces (cs ++ '[' :: rest) = pieces cs ++ pieces ('[' :: rest) := by
  induction cs using pieces.induct with
  | case1 => rw [pieces, List.nil_append, List.nil_append]
  | case2 c cs ih =>
    rcases readPiece_spec c cs with ⟨word, hlongest, hcs⟩ | ⟨hnone, hread⟩
    · have hrest : '[' ∉ (readPiece c cs).2 := by
        rw [hcs] at hbefore
        exact fun h => hbefore (List.mem_append_right _ h)
      -- the token that is read here ends before the bracket, so it is the longest one with it,
      -- too
      have hreaches : IsLongest (c :: cs ++ '[' :: rest) word (readPiece c cs).1 :=
        hlongest.before_bracket hbefore
      rw [hcs] at hlongest
      rw [hcs, List.append_assoc] at hreaches ⊢
      rw [pieces_of_isLongest hreaches, pieces_of_isLongest hlongest, ih hrest, List.cons_append]
    · -- the bracket behind it makes a token of no character that starts none alone
      have hnone' : ∀ word p, IsToken word p → ¬ word <+: c :: (cs ++ '[' :: rest) :=
        fun word p hword hstarts =>
          hnone word p hword (hword.prefix_of_before_bracket hbefore hstarts)
      rw [hread] at ih
      rw [pieces_plain hnone, List.cons_append, pieces_plain hnone',
        ih (fun h => hbefore (List.mem_cons_of_mem _ h)), List.cons_append]

theorem pieces_bracket (htext : ']' ∉ text) :
    pieces ('[' :: (text ++ ']' :: rest)) = .literal text :: pieces rest := by
  rw [pieces, readPiece, if_pos rfl, readLiteral?_append htext]

end FormatPiece

namespace Moment

open FormatPiece

variable {m : Moment} {cs : List Char} {shown : String}

/-- What a format writes, from left to right: the longest token at a position is rendered, and a
character that starts no token is copied. -/
inductive Writes (m : Moment) : List Char → String → Prop
  | done : Writes m [] ""
  | token {word rest : List Char} {piece : FormatPiece} {shown : String} :
    IsLongest (word ++ rest) word piece → Writes m rest shown →
    Writes m (word ++ rest) (piece.render m ++ shown)
  | copied {c : Char} {rest : List Char} {shown : String} :
    (∀ word piece, IsToken word piece → ¬ word <+: c :: rest) → Writes m rest shown →
    Writes m (c :: rest) (String.singleton c ++ shown)

/-- Every format writes what reading it piece by piece gives. -/
theorem writes_pieces (m : Moment) (cs : List Char) :
    m.Writes cs (String.join ((pieces cs).map (·.render m))) := by
  induction cs using pieces.induct with
  | case1 =>
    rw [pieces]
    exact .done
  | case2 c cs ih =>
    rw [pieces, List.map_cons, String.join_cons]
    rcases readPiece_spec c cs with ⟨word, hlongest, hcs⟩ | ⟨hnone, hread⟩
    · rw [hcs] at hlongest ⊢
      exact .token hlongest ih
    · rw [hread] at ih ⊢
      exact .copied hnone ih

/-- It writes nothing else. -/
theorem Writes.eq_pieces (h : m.Writes cs shown) :
    shown = String.join ((pieces cs).map (·.render m)) := by
  induction h with
  | done => rw [pieces, List.map_nil, String.join_nil]
  | token hlongest _ ih =>
    rw [pieces_of_isLongest hlongest, List.map_cons, String.join_cons, ih]
  | copied hnone _ ih =>
    rw [pieces_plain hnone, List.map_cons, String.join_cons, ih]
    rfl

/-- A format is expanded from left to right, by the longest token at each position, and otherwise
copied; this gives exactly one text.  A text in brackets behind a format without an opening bracket
appears as it is, between what the formats before and after it give on their own. -/
theorem format_takes_longest (m : Moment) :
    (∀ pattern shown, m.format pattern = shown ↔ m.Writes pattern.toList shown) ∧
      ∀ before text after : String, '[' ∉ before.toList → ']' ∉ text.toList →
        m.format (before ++ "[" ++ text ++ "]" ++ after) =
          m.format before ++ text ++ m.format after := by
  refine ⟨fun pattern shown => ⟨?_, fun h => h.eq_pieces.symm⟩,
    fun before text after hbefore htext => ?_⟩
  · rintro rfl
    exact m.writes_pieces pattern.toList
  · have hpattern : (before ++ "[" ++ text ++ "]" ++ after).toList =
        before.toList ++ '[' :: (text.toList ++ ']' :: after.toList) := by
      simp
    rw [format, hpattern, pieces_before_bracket hbefore, pieces_bracket htext, List.map_append,
      List.map_cons, String.join_append, String.join_cons, render, String.ofList_toList,
      ← String.append_assoc]
    rfl

/-- The two letters of `DD` are one token, so that an `o` behind them is copied; an opening bracket
between brackets is text, and one that is never closed is copied. -/
theorem format_takes_longest_openBrackets :
    let m : Moment := { seconds := 1709640429, offset := 7200 }
    '[' ∉ "DDo".toList ∧ ']' ∉ "[Week ".toList ∧ m.Writes "DDo".toList "05o" ∧
      m.format ("DDo" ++ "[" ++ "[Week " ++ "]" ++ "W[") = "05o[Week 10[" := by
  intro m
  have hbefore : '[' ∉ "DDo".toList := by decide
  have htext : ']' ∉ "[Week ".toList := by decide
  have hday : m.format "DDo" = "05o" := by
    have hfirst : readPiece 'D' ['D', 'o'] = (.token .paddedDay, ['o']) := by decide
    have hlast : readPiece 'o' [] = (.plain 'o', []) := by decide
    have hpieces : pieces ['D', 'D', 'o'] = [.token .paddedDay, .plain 'o'] := by
      rw [pieces, hfirst, pieces, hlast, pieces]
    rw [format, show "DDo".toList = ['D', 'D', 'o'] by decide, hpieces]
    decide
  have hweek : m.format "W[" = "10[" := by
    have hfirst : readPiece 'W' ['['] = (.token .week, ['[']) := by decide
    have hlast : readPiece '[' [] = (.plain '[', []) := by decide
    have hpieces : pieces ['W', '['] = [.token .week, .plain '['] := by
      rw [pieces, hfirst, pieces, hlast, pieces]
    rw [format, show "W[".toList = ['W', '['] by decide, hpieces]
    decide
  have hwhole := (format_takes_longest m).2 "DDo" "[Week " "W[" hbefore htext
  refine ⟨hbefore, htext, ((format_takes_longest m).1 _ _).1 hday, ?_⟩
  rw [hwhole, hday, hweek]
  decide

end Moment

end CommandTemplates
