/-
Texts as bytes.

The bytes of a text are the bytes of its characters, one after the other, and reading them
gives the text back.  A byte below `0x80` is a character of its own wherever it stands, so
that bytes may be cut at such characters without looking at the others.

* `Utf8.decode_bytes` — reading the bytes of some characters gives these characters;
* `Utf8.eq_singleton_of_mem` — a byte below `0x80` is all there is to its character.
-/
import CommandTemplates.Text.Utf8
import Mathlib.Data.List.Basic

namespace CommandTemplates.Utf8

variable {a b c d : UInt8} {rest : List UInt8} {offset : Nat} {ch : Char}

/-! ### The bytes of a text -/

theorem toList_loop (bytes : ByteArray) (i : Nat) (read : List UInt8) :
    ByteArray.toList.loop bytes i read = read.reverse ++ bytes.data.toList.drop i := by
  fun_induction ByteArray.toList.loop bytes i read with
  | case1 i read hi ih =>
    have hlength : i < bytes.data.toList.length := by simpa using hi
    have hget : bytes.get! i = bytes.data.toList[i] := by
      have hdata : bytes.get! i = bytes.data[i]! := rfl
      rw [hdata, getElem!_pos bytes.data i hi, Array.getElem_toList]
    rw [ih, List.drop_eq_getElem_cons hlength, hget, List.reverse_cons, List.append_assoc,
      List.singleton_append]
  | case2 i read hi =>
    rw [List.drop_eq_nil_of_le (by simpa using hi), List.append_nil]

/-- The bytes of some characters. -/
def bytes (cs : List Char) : List UInt8 := cs.flatMap String.utf8EncodeChar

@[simp] theorem bytes_nil : bytes [] = [] := rfl

@[simp] theorem bytes_cons (ch : Char) (cs : List Char) :
    bytes (ch :: cs) = String.utf8EncodeChar ch ++ bytes cs := rfl

@[simp] theorem bytes_append (cs ds : List Char) : bytes (cs ++ ds) = bytes cs ++ bytes ds :=
  List.flatMap_append

theorem encode_eq (text : String) : encode text = bytes text.toList := by
  rw [encode, String.toUTF8_eq_toByteArray, ← String.utf8Encode_toList, List.utf8Encode,
    ByteArray.toList, toList_loop, List.toList_data_toByteArray]
  rfl

theorem encode_ofList (cs : List Char) : encode (String.ofList cs) = bytes cs := by
  rw [encode_eq, String.toList_ofList]

/-! ### Reading one character -/

theorem decodeFrom_one (ha : a.toNat < 0x80) :
    decodeFrom offset (a :: rest) =
      (decodeFrom (offset + 1) rest).map (Char.ofNat a.toNat :: ·) := by
  have ha' : a < 0x80 := UInt8.lt_iff_toNat_lt.2 ha
  rw [decodeFrom.eq_def]
  simp only [ha', if_true]

theorem decodeFrom_two (ha : 0xC2 ≤ a.toNat ∧ a.toNat ≤ 0xDF) (hb : isTail b = true) :
    decodeFrom offset (a :: b :: rest) =
      (decodeFrom (offset + 2) rest).map (assemble (a.toNat - 0xC0) [b] :: ·) := by
  have hone : ¬ a < 0x80 := by
    rw [UInt8.lt_iff_toNat_lt]
    exact Nat.not_lt.2 (by simpa using by omega)
  have htwo : (0xC2 ≤ a && a ≤ 0xDF) = true := by
    simpa [UInt8.le_iff_toNat_le] using ha
  rw [decodeFrom.eq_def]
  simp only [hone, htwo, hb, if_true, if_false]

theorem decodeFrom_three (ha : 0xE0 ≤ a.toNat ∧ a.toNat ≤ 0xEF)
    (hb : isSecondOfThree a b = true) (hc : isTail c = true) :
    decodeFrom offset (a :: b :: c :: rest) =
      (decodeFrom (offset + 3) rest).map (assemble (a.toNat - 0xE0) [b, c] :: ·) := by
  have hone : ¬ a < 0x80 := by
    rw [UInt8.lt_iff_toNat_lt]
    exact Nat.not_lt.2 (by simpa using by omega)
  have htwo : (0xC2 ≤ a && a ≤ 0xDF) = false := by
    simpa [UInt8.le_iff_toNat_le, UInt8.lt_iff_toNat_lt] using fun _ => by omega
  have hthree : (0xE0 ≤ a && a ≤ 0xEF) = true := by
    simpa [UInt8.le_iff_toNat_le] using ha
  rw [decodeFrom.eq_def]
  simp only [hone, htwo, hthree, hb, hc, if_true, if_false, Bool.not_true, Bool.false_eq_true]

theorem decodeFrom_four (ha : 0xF0 ≤ a.toNat ∧ a.toNat ≤ 0xF4)
    (hb : isSecondOfFour a b = true) (hc : isTail c = true) (hd : isTail d = true) :
    decodeFrom offset (a :: b :: c :: d :: rest) =
      (decodeFrom (offset + 4) rest).map (assemble (a.toNat - 0xF0) [b, c, d] :: ·) := by
  have hone : ¬ a < 0x80 := by
    rw [UInt8.lt_iff_toNat_lt]
    exact Nat.not_lt.2 (by simpa using by omega)
  have htwo : (0xC2 ≤ a && a ≤ 0xDF) = false := by
    simpa [UInt8.le_iff_toNat_le, UInt8.lt_iff_toNat_lt] using fun _ => by omega
  have hthree : (0xE0 ≤ a && a ≤ 0xEF) = false := by
    simpa [UInt8.le_iff_toNat_le, UInt8.lt_iff_toNat_lt] using fun _ => by omega
  have hfour : (0xF0 ≤ a && a ≤ 0xF4) = true := by
    simpa [UInt8.le_iff_toNat_le] using ha
  rw [decodeFrom.eq_def]
  simp only [hone, htwo, hthree, hfour, hb, hc, hd, if_true, if_false, Bool.not_true,
    Bool.false_eq_true]

/-! ### The bytes of one character -/

/-- The number of a byte that is written for the number of a character. -/
theorem toNat_byte {n m : Nat} (h : n + m < 256) : (UInt8.ofNat (n + m)).toNat = n + m := by
  rw [UInt8.toNat_ofNat', Nat.mod_eq_of_lt h]

theorem isTail_iff : isTail b = true ↔ 0x80 ≤ b.toNat ∧ b.toNat ≤ 0xBF := by
  simp [isTail, UInt8.le_iff_toNat_le]

theorem isTail_byte (n : Nat) : isTail (UInt8.ofNat (n % 64 + 0x80)) = true := by
  rw [isTail_iff, toNat_byte (by omega)]
  omega

theorem isSecondOfThree_iff : isSecondOfThree a b = true ↔
    (0x80 ≤ b.toNat ∧ b.toNat ≤ 0xBF) ∧ (a.toNat = 0xE0 → 0xA0 ≤ b.toNat) ∧
      (a.toNat = 0xED → b.toNat ≤ 0x9F) := by
  unfold isSecondOfThree
  simp only [← UInt8.toNat_inj, isTail]
  split
  · simp_all [UInt8.le_iff_toNat_le]
    omega
  · split <;> simp_all [UInt8.le_iff_toNat_le]
    omega

theorem isSecondOfFour_iff : isSecondOfFour a b = true ↔
    (0x80 ≤ b.toNat ∧ b.toNat ≤ 0xBF) ∧ (a.toNat = 0xF0 → 0x90 ≤ b.toNat) ∧
      (a.toNat = 0xF4 → b.toNat ≤ 0x8F) := by
  unfold isSecondOfFour
  simp only [← UInt8.toNat_inj, isTail]
  split
  · simp_all [UInt8.le_iff_toNat_le]
    omega
  · split <;> simp_all [UInt8.le_iff_toNat_le]
    omega

/-- No character is a surrogate. -/
theorem toNat_cases (ch : Char) : ch.toNat < 0xD800 ∨ 0xDFFF < ch.toNat ∧ ch.toNat < 0x110000 :=
  ch.valid

theorem assemble_eq {payload : Nat} {tails : List UInt8}
    (h : tails.foldl (fun n b => n * 64 + (b.toNat - 0x80)) payload = ch.toNat) :
    assemble payload tails = ch := by
  rw [assemble, h, Char.ofNat_toNat]

/-- The bytes of a character are read as this character, whatever follows them. -/
theorem decodeFrom_character (ch : Char) (offset : Nat) (rest : List UInt8) :
    decodeFrom offset (String.utf8EncodeChar ch ++ rest) =
      (decodeFrom (offset + (String.utf8EncodeChar ch).length) rest).map (ch :: ·) := by
  have hvalid := toNat_cases ch
  -- one case for each number of bytes; `toNat_cases` rules out the numbers that are not
  -- characters
  fun_cases String.utf8EncodeChar ch with
  | case1 v hone =>
    have hv : v = ch.toNat := rfl
    have ha : (UInt8.ofNat v).toNat = v := toNat_byte (n := v) (m := 0) (by omega)
    rw [List.singleton_append, decodeFrom_one (by omega), ha, hv, Char.ofNat_toNat]
    rfl
  | case2 v hone htwo =>
    have hv : v = ch.toNat := rfl
    have ha : (UInt8.ofNat (v / 64 % 0x20 + 0xC0)).toNat = _ := toNat_byte (by omega)
    have hb : (UInt8.ofNat (v % 0x40 + 0x80)).toNat = _ := toNat_byte (by omega)
    have hnumber : assemble ((UInt8.ofNat (v / 64 % 0x20 + 0xC0)).toNat - 0xC0)
        [UInt8.ofNat (v % 0x40 + 0x80)] = ch := by
      refine assemble_eq ?_
      rw [List.foldl_cons, List.foldl_nil, ha, hb]
      omega
    rw [List.cons_append, List.singleton_append, decodeFrom_two (by omega) (isTail_byte v), hnumber]
    rfl
  | case3 v hone htwo hthree =>
    have hv : v = ch.toNat := rfl
    have ha : (UInt8.ofNat (v / 4096 % 0x10 + 0xE0)).toNat = _ := toNat_byte (by omega)
    have hb : (UInt8.ofNat (v / 64 % 0x40 + 0x80)).toNat = _ := toNat_byte (by omega)
    have hc : (UInt8.ofNat (v % 0x40 + 0x80)).toNat = _ := toNat_byte (by omega)
    -- a second byte that would make the character shorter, or a surrogate, is refused
    have hsecond : isSecondOfThree (UInt8.ofNat (v / 4096 % 0x10 + 0xE0))
        (UInt8.ofNat (v / 64 % 0x40 + 0x80)) = true := by
      rw [isSecondOfThree_iff, ha, hb]
      omega
    have hnumber : assemble ((UInt8.ofNat (v / 4096 % 0x10 + 0xE0)).toNat - 0xE0)
        [UInt8.ofNat (v / 64 % 0x40 + 0x80), UInt8.ofNat (v % 0x40 + 0x80)] = ch := by
      refine assemble_eq ?_
      rw [List.foldl_cons, List.foldl_cons, List.foldl_nil, ha, hb, hc]
      omega
    rw [List.cons_append, List.cons_append, List.singleton_append,
      decodeFrom_three (by omega) hsecond (isTail_byte v), hnumber]
    rfl
  | case4 v hone htwo hthree =>
    have hv : v = ch.toNat := rfl
    have ha : (UInt8.ofNat (v / 262144 % 0x08 + 0xF0)).toNat = _ := toNat_byte (by omega)
    have hb : (UInt8.ofNat (v / 4096 % 0x40 + 0x80)).toNat = _ := toNat_byte (by omega)
    have hc : (UInt8.ofNat (v / 64 % 0x40 + 0x80)).toNat = _ := toNat_byte (by omega)
    have hd : (UInt8.ofNat (v % 0x40 + 0x80)).toNat = _ := toNat_byte (by omega)
    -- a second byte that would make the character shorter, or too large, is refused
    have hsecond : isSecondOfFour (UInt8.ofNat (v / 262144 % 0x08 + 0xF0))
        (UInt8.ofNat (v / 4096 % 0x40 + 0x80)) = true := by
      rw [isSecondOfFour_iff, ha, hb]
      omega
    have hnumber : assemble ((UInt8.ofNat (v / 262144 % 0x08 + 0xF0)).toNat - 0xF0)
        [UInt8.ofNat (v / 4096 % 0x40 + 0x80), UInt8.ofNat (v / 64 % 0x40 + 0x80),
          UInt8.ofNat (v % 0x40 + 0x80)] = ch := by
      refine assemble_eq ?_
      rw [List.foldl_cons, List.foldl_cons, List.foldl_cons, List.foldl_nil, ha, hb, hc, hd]
      omega
    rw [List.cons_append, List.cons_append, List.cons_append, List.singleton_append,
      decodeFrom_four (by omega) hsecond (isTail_byte _) (isTail_byte v), hnumber]
    rfl

theorem decodeFrom_bytes (cs : List Char) (offset : Nat) :
    decodeFrom offset (bytes cs) = .ok cs := by
  induction cs generalizing offset with
  | nil => rfl
  | cons ch cs ih =>
    rw [bytes_cons, decodeFrom_character, ih]
    rfl

theorem decode_bytes (cs : List Char) : decode (bytes cs) = .ok (String.ofList cs) := by
  rw [decode, decodeFrom_bytes]
  rfl

/-! ### Bytes that are characters -/

/-- Each byte of a character of several bytes is at least `0x80`. -/
theorem le_toNat_of_mem (hlength : (String.utf8EncodeChar ch).length ≠ 1)
    (h : b ∈ String.utf8EncodeChar ch) : 0x80 ≤ b.toNat := by
  revert h hlength
  fun_cases String.utf8EncodeChar ch with
  | case1 v hone => exact fun hlength => absurd rfl hlength
  | case2 v hone htwo =>
    simp only [List.mem_cons, List.not_mem_nil, or_false]
    rintro - (rfl | rfl)
    all_goals
      rw [toNat_byte (by omega)]
      omega
  | case3 v hone htwo hthree =>
    simp only [List.mem_cons, List.not_mem_nil, or_false]
    rintro - (rfl | rfl | rfl)
    all_goals
      rw [toNat_byte (by omega)]
      omega
  | case4 v hone htwo hthree =>
    simp only [List.mem_cons, List.not_mem_nil, or_false]
    rintro - (rfl | rfl | rfl | rfl)
    all_goals
      rw [toNat_byte (by omega)]
      omega

/-- A byte below `0x80` is the only one of its character. -/
theorem eq_singleton_of_mem (h : b ∈ String.utf8EncodeChar ch) (hb : b.toNat < 0x80) :
    String.utf8EncodeChar ch = [b] ∧ ch = Char.ofNat b.toNat := by
  have hone : (String.utf8EncodeChar ch).length = 1 := by
    by_contra hlength
    have := le_toNat_of_mem hlength h
    omega
  obtain ⟨a, ha⟩ := List.length_eq_one_iff.1 hone
  obtain rfl : b = a := by simpa [ha] using h
  refine ⟨ha, ?_⟩
  -- the byte is read as the character itself, and as the one that it is the number of
  have hread := decodeFrom_character ch 0 []
  rw [ha, List.append_nil, decodeFrom_one hb] at hread
  have hheads : [Char.ofNat b.toNat] = [ch] := Except.ok.inj hread
  exact (List.singleton_inj.1 hheads).symm

end CommandTemplates.Utf8
