/-
The lines of a text.

A line ends with its line feed, and only the last one may have none, so that the lines
together are the text.

* `Text.flatten_lines`, `Text.lines_of_newline`, `Text.lines_of_last` — what the lines are;
* `Transcript.takeLine?_bytes` — reading a line off the bytes of a text reads its first line;
* `Terminal.decode_withoutEnd` — a line of bytes without its end is text, up to carriage
  returns that are cut off anyway.
-/
import CommandTemplates.Prompt.Lines
import CommandTemplates.Proofs.Text.Encoding
import Mathlib.Data.List.DropRight

namespace CommandTemplates

namespace Text

variable {cs body line : List Char} {others : List (List Char)}

/-- The lines of a text, each with its end. -/
def lines : List Char → List (List Char)
  | [] => []
  | c :: cs =>
    if c = '\n' then ['\n'] :: lines cs
    else
      match lines cs with
      | [] => [[c]]
      | line :: others => (c :: line) :: others

/-- What a line says: the line without its end and the carriage returns before it. -/
def content (line : List Char) : List Char := (line.rdropWhile (· = '\n')).rdropWhile (· = '\r')

theorem flatten_lines (cs : List Char) : (lines cs).flatten = cs := by
  induction cs with
  | nil => rfl
  | cons c cs ih =>
    rw [lines]
    split
    · next hc => rw [List.flatten_cons, ih, hc, List.singleton_append]
    · split
      · next hnil =>
        rw [hnil] at ih
        simp [← ih]
      · next hcons => rw [List.flatten_cons, List.cons_append, ← List.flatten_cons, ← hcons, ih]

theorem lines_eq_nil_iff : lines cs = [] ↔ cs = [] := by
  constructor
  · intro h
    rw [← flatten_lines cs, h, List.flatten_nil]
  · rintro rfl
    rfl

theorem lines_of_newline (h : '\n' ∉ body) (cs : List Char) :
    lines (body ++ '\n' :: cs) = (body ++ ['\n']) :: lines cs := by
  induction body with
  | nil => simp [lines]
  | cons c body ih =>
    rw [List.mem_cons, not_or] at h
    rw [List.cons_append, lines, if_neg (Ne.symm h.1), ih h.2]
    rfl

theorem lines_of_last (h : '\n' ∉ body) (hne : body ≠ []) : lines body = [body] := by
  induction body with
  | nil => exact absurd rfl hne
  | cons c body ih =>
    rw [List.mem_cons, not_or] at h
    rw [lines, if_neg (Ne.symm h.1)]
    cases body with
    | nil => rfl
    | cons c' body => rw [ih h.2 (List.cons_ne_nil _ _)]

/-- The first line of a text ends with the first line feed, or is all of the text. -/
theorem first_line (h : lines cs = line :: others) :
    (∃ body, '\n' ∉ body ∧ line = body ++ ['\n'] ∧ cs = body ++ '\n' :: others.flatten) ∨
      '\n' ∉ line ∧ line ≠ [] ∧ others = [] ∧ cs = line := by
  have hne : cs ≠ [] := mt lines_eq_nil_iff.2 (by simp [h])
  by_cases hnewline : '\n' ∈ cs
  · obtain ⟨body, rest, rfl, hbody⟩ := List.eq_append_cons_of_mem hnewline
    rw [lines_of_newline hbody] at h
    obtain ⟨rfl, rfl⟩ := List.cons.inj h
    exact .inl ⟨body, hbody, rfl, by rw [flatten_lines]⟩
  · rw [lines_of_last hnewline hne] at h
    obtain ⟨rfl, rfl⟩ := List.cons.inj h
    exact .inr ⟨hnewline, hne, rfl, rfl⟩

/-- What follows the first line has the other lines. -/
theorem lines_flatten_others (h : lines cs = line :: others) : lines others.flatten = others := by
  rcases first_line h with ⟨body, hbody, -, rfl⟩ | ⟨-, -, rfl, -⟩
  · rw [lines_of_newline hbody] at h
    exact (List.cons.inj h).2
  · rfl

theorem lines_flatMap_newline {ls : List (List Char)} (h : ∀ l ∈ ls, '\n' ∉ l) :
    lines (ls.flatMap (· ++ ['\n'])) = ls.map (· ++ ['\n']) := by
  induction ls with
  | nil => rfl
  | cons l ls ih =>
    obtain ⟨hl, hls⟩ := List.forall_mem_cons.1 h
    rw [List.flatMap_cons, List.append_assoc, List.singleton_append, lines_of_newline hl, ih hls,
      List.map_cons]

theorem rdropWhile_of_notMem {c : Char} (h : c ∉ body) : body.rdropWhile (· = c) = body := by
  rw [List.rdropWhile_eq_self_iff]
  intro hne hlast
  exact h (of_decide_eq_true hlast ▸ List.getLast_mem hne)

theorem content_of_newline (h : '\n' ∉ body) :
    content (body ++ ['\n']) = body.rdropWhile (· = '\r') := by
  rw [content, List.rdropWhile_concat_pos _ _ _ (by decide), rdropWhile_of_notMem h]

theorem content_of_last (h : '\n' ∉ body) : content body = body.rdropWhile (· = '\r') := by
  rw [content, rdropWhile_of_notMem h]

end Text

/-! ### Lines of bytes -/

namespace Utf8

variable {cs : List Char} {bs : List UInt8} {b : UInt8}

/-- A byte below `0x80` at the end of a text is its last character. -/
theorem exists_of_bytes_eq_concat (h : bytes cs = bs ++ [b]) (hb : b.toNat < 0x80) :
    ∃ cs', cs = cs' ++ [Char.ofNat b.toNat] ∧ bytes cs' = bs := by
  induction cs using List.reverseRecOn with
  | nil => simp at h
  | append_singleton cs ch _ =>
    rw [bytes_append, bytes_cons, bytes_nil, List.append_nil] at h
    -- the last byte is one of the last character, and a byte this small is a character by
    -- itself
    have hmem : b ∈ String.utf8EncodeChar ch := by
      have hlast := congrArg List.getLast? h
      rw [List.getLast?_append_of_ne_nil _ String.utf8EncodeChar_ne_nil, List.getLast?_concat]
        at hlast
      exact List.mem_of_getLast? hlast
    obtain ⟨hbytes, hch⟩ := eq_singleton_of_mem hmem hb
    rw [hbytes] at h
    exact ⟨cs, by rw [← hch], (List.append_inj' h rfl).1⟩

theorem newline_notMem_bytes (h : '\n' ∉ cs) : 10 ∉ bytes cs := by
  intro hmem
  obtain ⟨ch, hch, hb⟩ := List.mem_flatMap.1 hmem
  obtain rfl : ch = '\n' := (eq_singleton_of_mem hb (by decide)).2
  exact h hch

theorem bytes_newline : bytes ['\n'] = [10] := by decide

end Utf8

namespace Transcript

variable {bs : List UInt8}

theorem takeLine?_of_newline (h : 10 ∉ bs) (rest : List UInt8) :
    takeLine? (bs ++ 10 :: rest) = some (bs ++ [10], rest) := by
  induction bs with
  | nil => simp [takeLine?]
  | cons b bs ih =>
    rw [List.mem_cons, not_or] at h
    rw [List.cons_append, takeLine?, if_neg (Ne.symm h.1), ih h.2]
    rfl

theorem takeLine?_of_last (h : 10 ∉ bs) (hne : bs ≠ []) : takeLine? bs = some (bs, []) := by
  induction bs with
  | nil => exact absurd rfl hne
  | cons b bs ih =>
    rw [List.mem_cons, not_or] at h
    rw [takeLine?, if_neg (Ne.symm h.1)]
    cases bs with
    | nil => rfl
    | cons b' bs => rw [ih h.2 (List.cons_ne_nil _ _)]

/-- Bytes of a text are cut where the text is. -/
theorem takeLine?_bytes {cs line : List Char} {others : List (List Char)}
    (h : Text.lines cs = line :: others) :
    takeLine? (Utf8.bytes cs) = some (Utf8.bytes line, Utf8.bytes others.flatten) := by
  rcases Text.first_line h with ⟨body, hbody, rfl, rfl⟩ | ⟨hline, hne, rfl, rfl⟩
  · have hcut := takeLine?_of_newline (Utf8.newline_notMem_bytes hbody)
      (Utf8.bytes others.flatten)
    rw [Utf8.bytes_append, Utf8.bytes_append, Utf8.bytes_newline]
    exact hcut
  · obtain ⟨c, cs, rfl⟩ := List.exists_cons_of_ne_nil hne
    exact takeLine?_of_last (Utf8.newline_notMem_bytes hline) (by simp)

end Transcript

namespace Terminal

variable {bs : List UInt8} {line : List Char}

theorem withoutEnd_return (bs : List UInt8) : withoutEnd (bs ++ [13] ++ [10]) = bs := by
  simp [withoutEnd]

theorem withoutEnd_newline (h : bs.getLast? ≠ some 13) : withoutEnd (bs ++ [10]) = bs := by
  induction bs using List.reverseRecOn with
  | nil => rfl
  | append_singleton bs b _ =>
    have hb : b ≠ 13 := by simpa using h
    simp only [withoutEnd, List.reverse_append, List.reverse_singleton, List.singleton_append]
    split
    · next heq => exact absurd (List.cons.inj (List.cons.inj heq).2).1 hb
    · next heq =>
      obtain rfl := (List.cons.inj heq).2
      simp
    · next hne => exact absurd rfl (hne _)

theorem withoutEnd_last (h : bs.getLast? ≠ some 10) : withoutEnd bs = bs := by
  induction bs using List.reverseRecOn with
  | nil => rfl
  | append_singleton bs b _ =>
    have hb : b ≠ 10 := by simpa using h
    simp only [withoutEnd, List.reverse_append, List.reverse_singleton, List.singleton_append]
    split
    · next heq => exact absurd (List.cons.inj heq).1 hb
    · next heq => exact absurd (List.cons.inj heq).1 hb
    · rfl

/-- A line of a text is read as text, and up to carriage returns at its end it says what the line
says. -/
theorem decode_withoutEnd {cs : List Char} {others : List (List Char)}
    (h : Text.lines cs = line :: others) :
    ∃ text : List Char, Utf8.decode (withoutEnd (Utf8.bytes line)) = .ok (String.ofList text) ∧
      text.rdropWhile (· = '\r') = Text.content line := by
  rcases Text.first_line h with ⟨body, hbody, rfl, -⟩ | ⟨hline, -, -, -⟩
  · rw [Utf8.bytes_append, Utf8.bytes_newline, Text.content_of_newline hbody]
    -- a carriage return before the line feed is taken off with it; any others are left in the
    -- text
    by_cases hlast : (Utf8.bytes body).getLast? = some 13
    · obtain ⟨bs, hbs⟩ := List.getLast?_eq_some_iff.1 hlast
      obtain ⟨text, rfl, rfl⟩ := Utf8.exists_of_bytes_eq_concat hbs (by decide)
      refine ⟨text, ?_, ?_⟩
      · rw [hbs, withoutEnd_return, Utf8.decode_bytes]
      · exact (List.rdropWhile_concat_pos _ _ _ (by decide)).symm
    · exact ⟨body, by rw [withoutEnd_newline hlast, Utf8.decode_bytes], rfl⟩
  · have hlast : (Utf8.bytes line).getLast? ≠ some 10 :=
      fun hlast => Utf8.newline_notMem_bytes hline (List.mem_of_getLast? hlast)
    rw [withoutEnd_last hlast, Text.content_of_last hline]
    exact ⟨line, Utf8.decode_bytes line, rfl⟩

end Terminal

end CommandTemplates
