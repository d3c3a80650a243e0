/-
Text measured and read in UTF-8 bytes.

Positions in a template are byte offsets, and answers arrive as bytes, so this
module holds the two bridges between bytes and characters:

* `byteLength`, `dropBytes?`, `takeBytes?` and `slice?` measure and cut a
  list of characters by byte offsets, failing inside a character;
* `decode` reads bytes as text, and on failure says how many leading bytes were
  good and how many of the following ones can never start a character.

Main statements: `byteLength_append` (lengths add up) and `slice?_append`
(cutting a text where two parts of it meet gives back the parts).
-/

namespace CommandTemplates.Utf8

/-- The number of bytes that a text takes. -/
def byteLength : List Char → Nat
  | [] => 0
  | c :: cs => c.utf8Size + byteLength cs

@[simp] theorem byteLength_nil : byteLength [] = 0 := rfl

@[simp] theorem byteLength_cons (c : Char) (cs : List Char) :
    byteLength (c :: cs) = c.utf8Size + byteLength cs := rfl

@[simp] theorem byteLength_append (s t : List Char) :
    byteLength (s ++ t) = byteLength s + byteLength t := by
  induction s with
  | nil => simp
  | cons c s ih => simp [ih, Nat.add_assoc]

theorem byteLength_pos {cs : List Char} (h : cs ≠ []) : 0 < byteLength cs := by
  obtain ⟨c, cs, rfl⟩ := List.exists_cons_of_ne_nil h
  have := c.utf8Size_pos
  rw [byteLength_cons]
  omega

/-- The text after its first `n` bytes, if byte `n` starts a character. -/
def dropBytes? : Nat → List Char → Option (List Char)
  | 0, cs => some cs
  | _ + 1, [] => none
  | n + 1, c :: cs => if c.utf8Size ≤ n + 1 then dropBytes? (n + 1 - c.utf8Size) cs else none

/-- The first `n` bytes of a text, if byte `n` starts a character. -/
def takeBytes? : Nat → List Char → Option (List Char)
  | 0, _ => some []
  | _ + 1, [] => none
  | n + 1, c :: cs =>
    if c.utf8Size ≤ n + 1 then (takeBytes? (n + 1 - c.utf8Size) cs).map (c :: ·) else none

/-- The text between two byte offsets, if both are character boundaries in order. -/
def slice? (start stop : Nat) (cs : List Char) : Option (List Char) :=
  if start ≤ stop then (dropBytes? start cs).bind (takeBytes? (stop - start)) else none

theorem dropBytes?_append (s t : List Char) : dropBytes? (byteLength s) (s ++ t) = some t := by
  induction s with
  | nil => simp [dropBytes?]
  | cons c s ih =>
    obtain ⟨n, hn⟩ : ∃ n, byteLength (c :: s) = n + 1 :=
      Nat.exists_eq_add_one_of_ne_zero (by have := c.utf8Size_pos; simp; omega)
    have hle : c.utf8Size ≤ n + 1 := by rw [← hn]; simp
    have hsub : n + 1 - c.utf8Size = byteLength s := by rw [← hn]; simp
    rw [hn]
    simp [dropBytes?, hle, hsub, ih]

theorem takeBytes?_append (s t : List Char) : takeBytes? (byteLength s) (s ++ t) = some s := by
  induction s with
  | nil => simp [takeBytes?]
  | cons c s ih =>
    obtain ⟨n, hn⟩ : ∃ n, byteLength (c :: s) = n + 1 :=
      Nat.exists_eq_add_one_of_ne_zero (by have := c.utf8Size_pos; simp; omega)
    have hle : c.utf8Size ≤ n + 1 := by rw [← hn]; simp
    have hsub : n + 1 - c.utf8Size = byteLength s := by rw [← hn]; simp
    rw [hn]
    simp [takeBytes?, hle, hsub, ih]

theorem slice?_append (s t u : List Char) :
    slice? (byteLength s) (byteLength s + byteLength t) (s ++ (t ++ u)) = some t := by
  simp [slice?, dropBytes?_append, takeBytes?_append]

/-- How a byte sequence stops being UTF-8. -/
structure Malformed where
  /-- The number of leading bytes that are well formed. -/
  validBytes : Nat
  /-- The number of bytes after them that no text contains; `none` if the input ends inside a
  character that more bytes could complete. -/
  badBytes : Option Nat
  deriving DecidableEq, Repr

/-- The wording of a decoding failure. -/
def Malformed.message (e : Malformed) : String :=
  match e.badBytes with
  | some n => s!"invalid utf-8 sequence of {n} bytes from index {e.validBytes}"
  | none => s!"incomplete utf-8 byte sequence from index {e.validBytes}"

/-- A byte that continues a character: `10xxxxxx`. -/
def isTail (b : UInt8) : Bool := 0x80 ≤ b && b ≤ 0xBF

/-- The second bytes that may follow the first byte of a three-byte character. -/
def isSecondOfThree (first second : UInt8) : Bool :=
  if first = 0xE0 then 0xA0 ≤ second && second ≤ 0xBF
  else if first = 0xED then 0x80 ≤ second && second ≤ 0x9F
  else isTail second

/-- The second bytes that may follow the first byte of a four-byte character. -/
def isSecondOfFour (first second : UInt8) : Bool :=
  if first = 0xF0 then 0x90 ≤ second && second ≤ 0xBF
  else if first = 0xF4 then 0x80 ≤ second && second ≤ 0x8F
  else isTail second

/-- The character that a first byte's payload and the tails' payloads spell. -/
def assemble (payload : Nat) (tails : List UInt8) : Char :=
  Char.ofNat (tails.foldl (fun n b => n * 64 + (b.toNat - 0x80)) payload)

/-- Reads bytes as text, `offset` bytes into the input. -/
def decodeFrom (offset : Nat) : List UInt8 → Except Malformed (List Char)
  | [] => .ok []
  | a :: rest =>
    let fail (n : Option Nat) : Except Malformed (List Char) := .error ⟨offset, n⟩
    if a < 0x80 then (decodeFrom (offset + 1) rest).map (Char.ofNat a.toNat :: ·)
    else if 0xC2 ≤ a && a ≤ 0xDF then
      match rest with
      | [] => fail none
      | b :: rest =>
        if isTail b then (decodeFrom (offset + 2) rest).map (assemble (a.toNat - 0xC0) [b] :: ·)
        else fail (some 1)
    else if 0xE0 ≤ a && a ≤ 0xEF then
      match rest with
      | [] => fail none
      | b :: rest =>
        if !isSecondOfThree a b then fail (some 1) else
        match rest with
        | [] => fail none
        | c :: rest =>
          if isTail c then
            (decodeFrom (offset + 3) rest).map (assemble (a.toNat - 0xE0) [b, c] :: ·)
          else fail (some 2)
    else if 0xF0 ≤ a && a ≤ 0xF4 then
      match rest with
      | [] => fail none
      | b :: rest =>
        if !isSecondOfFour a b then fail (some 1) else
        match rest with
        | [] => fail none
        | c :: rest =>
          if !isTail c then fail (some 2) else
          match rest with
          | [] => fail none
          | d :: rest =>
            if isTail d then
              (decodeFrom (offset + 4) rest).map (assemble (a.toNat - 0xF0) [b, c, d] :: ·)
            else fail (some 3)
    else fail (some 1)

/-- Reads bytes as text. -/
def decode (bytes : List UInt8) : Except Malformed String :=
  (decodeFrom 0 bytes).map String.ofList

/-- The bytes of a text. -/
def encode (text : String) : List UInt8 := text.toUTF8.toList

end CommandTemplates.Utf8
