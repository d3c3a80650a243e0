/-
Ranges of a template, in byte offsets.
-/
import CommandTemplates.Text.Utf8

namespace CommandTemplates

/-- The bytes from `start` up to but not including `stop`. -/
structure Span where
  start : Nat
  stop : Nat
  deriving DecidableEq, Repr

namespace Span

/-- The number of bytes; none if the range ends before it starts. -/
def length (s : Span) : Nat := s.stop - s.start

/-- Whether the range ends where it starts. -/
def isEmpty (s : Span) : Bool := s.start = s.stop

/-- The range moved to the right. -/
def shift (s : Span) (n : Nat) : Span := ⟨s.start + n, s.stop + n⟩

/-- The text in the range; empty if an end of it is outside the text or inside a character. -/
def slice (s : Span) (text : String) : String :=
  String.ofList ((Utf8.slice? s.start s.stop text.toList).getD [])

theorem slice_of_append {text : String} {before cs after : List Char}
    (h : text.toList = before ++ (cs ++ after)) :
    slice ⟨Utf8.byteLength before, Utf8.byteLength before + Utf8.byteLength cs⟩ text =
      String.ofList cs := by
  rw [slice, h, Utf8.slice?_append]
  rfl

end Span

end CommandTemplates
