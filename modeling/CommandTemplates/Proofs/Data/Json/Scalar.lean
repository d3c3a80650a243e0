/-
Strings and integers in a JSON text.

* `readString?_escaped` — a string is read back from its escaped characters, up to the
  quote behind them;
* `readNumber?_integer` — an integer of 64 bits is read back from its digits, if what
  follows cannot go on with a number (`EndsNumber`).
-/
import CommandTemplates.Data.Json
import Mathlib.Data.List.TakeWhile

namespace CommandTemplates.Json

/-! ### Strings -/

/-- Adds a character to the front of what was read. -/
def pushString (c : Char) (r : List Char × List Char) : List Char × List Char := (c :: r.1, r.2)

theorem charOfCode?_toNat (c : Char) : charOfCode? c.toNat = some c := by
  have hvalid : c.toNat.isValidChar := c.valid
  rw [charOfCode?, if_pos hvalid, Char.ofNat_toNat]

/-- Behind `\u` only digits in base sixteen are read. -/
theorem readString?_of_not_code {a b c d : Char} {tail : List Char}
    (hcode : hexNumber? [a, b, c, d] = none) :
    readString? ('\\' :: 'u' :: a :: b :: c :: d :: tail) = none := by
  by_cases hpair : ∃ e f g h rest, tail = '\\' :: 'u' :: e :: f :: g :: h :: rest
  · obtain ⟨e, f, g, h, rest, rfl⟩ := hpair
    rw [readString?, hcode]
    rfl
  · rw [readString?.eq_4 a b c d tail fun e f g h rest heq => hpair ⟨e, f, g, h, rest, heq⟩, hcode]
    rfl

/-- The code of a character that is no half of a pair is read as that character. -/
theorem readString?_code {a b c d e : Char} {tail : List Char}
    (hcode : hexNumber? [a, b, c, d] = some e.toNat) (hlow : e.toNat < 0xD800) :
    readString? ('\\' :: 'u' :: a :: b :: c :: d :: tail) =
      (readString? tail).map (pushString e) := by
  -- a second code behind it would make a pair, but only behind the first half of one
  by_cases hpair : ∃ e f g h rest, tail = '\\' :: 'u' :: e :: f :: g :: h :: rest
  · obtain ⟨f, g, h, i, rest, rfl⟩ := hpair
    rw [readString?, hcode]
    simp only [Option.bind_eq_bind, Option.bind_some]
    cases hnext : hexNumber? [f, g, h, i] with
    | none =>
      rw [readString?_of_not_code hnext]
      rfl
    | some low =>
      have hhalf : ¬ 0xD800 ≤ e.toNat := Nat.not_le.2 hlow
      simp only [Option.bind_some, hhalf, decide_false, Bool.false_and, Bool.false_eq_true,
        if_false, charOfCode?_toNat]
      cases readString? ('\\' :: 'u' :: f :: g :: h :: i :: rest) <;> rfl
  · rw [readString?.eq_4 a b c d tail fun e f g h rest heq => hpair ⟨e, f, g, h, rest, heq⟩, hcode]
    simp only [Option.bind_eq_bind, Option.bind_some, charOfCode?_toNat]
    cases readString? tail <;> rfl

/-- A letter behind a backslash is read as the character that it stands for. -/
theorem readString?_simple {letter c : Char} {tail : List Char}
    (hletter : simpleEscape? letter = some c) :
    readString? ('\\' :: letter :: tail) = (readString? tail).map (pushString c) := by
  have hu : letter ≠ 'u' := by
    rintro rfl
    simp [simpleEscape?] at hletter
  rw [readString?.eq_5 letter tail (fun _ _ _ _ _ _ _ _ _ heq => absurd heq hu)
    fun _ _ _ _ _ heq => absurd heq hu, hletter]
  simp only [Option.bind_eq_bind, Option.bind_some]
  cases readString? tail <;> rfl

/-- A character that needs no escape is read as itself. -/
theorem readString?_plain {c : Char} {tail : List Char} (hquote : c ≠ '"') (hslash : c ≠ '\\')
    (hcontrol : ¬ c.toNat < 32) :
    readString? (c :: tail) = (readString? tail).map (pushString c) := by
  rw [readString?.eq_6 c tail (fun heq => hquote heq)
    (fun _ _ _ _ _ _ _ _ _ heq => absurd heq hslash) (fun _ _ _ _ _ heq => absurd heq hslash)
    fun _ _ heq => absurd heq hslash, if_neg hcontrol]
  rfl

/-- The four digits of a code below 32. -/
theorem hexNumber?_of_lt : ∀ n < 32,
    let digits := List.replicate (4 - (Text.hexDigits n).length) '0' ++ Text.hexDigits n
    digits.length = 4 ∧ hexNumber? digits = some n := by
  decide

/-- A character is written behind a backslash, as its code, or as it is. -/
theorem escapeCharacter_cases (c : Char) :
    (∃ letter, escapeCharacter c = ['\\', letter] ∧ simpleEscape? letter = some c) ∨
      (∃ w x y z, escapeCharacter c = ['\\', 'u', w, x, y, z] ∧
        hexNumber? [w, x, y, z] = some c.toNat ∧ c.toNat < 32) ∨
      escapeCharacter c = [c] ∧ c ≠ '"' ∧ c ≠ '\\' ∧ ¬ c.toNat < 32 := by
  unfold escapeCharacter
  split_ifs with hself hb hf hn hr ht hcontrol
  · simp only [Bool.or_eq_true, decide_eq_true_eq] at hself
    rcases hself with rfl | rfl
    · exact .inl ⟨'"', rfl, rfl⟩
    · exact .inl ⟨'\\', rfl, rfl⟩
  · exact .inl ⟨'b', rfl, hb ▸ rfl⟩
  · exact .inl ⟨'f', rfl, hf ▸ rfl⟩
  · exact .inl ⟨'n', rfl, hn ▸ rfl⟩
  · exact .inl ⟨'r', rfl, hr ▸ rfl⟩
  · exact .inl ⟨'t', rfl, ht ▸ rfl⟩
  · obtain ⟨hlength, hcode⟩ := hexNumber?_of_lt c.toNat hcontrol
    generalize hdigits : List.replicate (4 - (Text.hexDigits c.toNat).length) '0' ++
      Text.hexDigits c.toNat = digits at hlength hcode
    obtain ⟨w, x, y, z, rfl⟩ : ∃ w x y z, digits = [w, x, y, z] := by
      match digits, hlength with
      | [w, x, y, z], _ => exact ⟨w, x, y, z, rfl⟩
    refine .inr (.inl ⟨w, x, y, z, ?_, hcode, hcontrol⟩)
    simp only [List.append_assoc, hdigits]
    rfl
  · simp only [Bool.or_eq_true, decide_eq_true_eq, not_or] at hself
    exact .inr (.inr ⟨rfl, hself.1, hself.2, hcontrol⟩)

theorem readString?_escapeCharacter (c : Char) (tail : List Char) :
    readString? (escapeCharacter c ++ tail) = (readString? tail).map (pushString c) := by
  rcases escapeCharacter_cases c with
    ⟨letter, heq, hletter⟩ | ⟨w, x, y, z, heq, hcode, hcontrol⟩ | ⟨heq, hquote, hslash, hcontrol⟩
  · rw [heq]
    exact readString?_simple hletter
  · rw [heq]
    exact readString?_code hcode (by omega)
  · rw [heq]
    exact readString?_plain hquote hslash hcontrol

theorem readString?_escaped (cs rest : List Char) :
    readString? (cs.flatMap escapeCharacter ++ '"' :: rest) = some (cs, rest) := by
  induction cs with
  | nil => rw [List.flatMap_nil, List.nil_append, readString?]
  | cons c cs ih =>
    rw [List.flatMap_cons, List.append_assoc, readString?_escapeCharacter, ih]
    rfl

/-! ### Integers -/

/-- Whether a text cannot go on with a number that ends before it. -/
def EndsNumber (rest : List Char) : Prop :=
  ∀ c, rest.head? = some c → c.isDigit = false ∧ c ≠ '.' ∧ c ≠ 'e' ∧ c ≠ 'E'

theorem readDigits?_append {digits rest : List Char} (hne : digits ≠ [])
    (hdigits : ∀ c ∈ digits, c.isDigit = true) (hrest : EndsNumber rest) :
    readDigits? (digits ++ rest) = some (digits, rest) := by
  have htake : (digits ++ rest).takeWhile Char.isDigit = digits := by
    rw [List.takeWhile_append_of_pos hdigits]
    cases rest with
    | nil => simp
    | cons c rest => simp [(hrest c rfl).1]
  have hdrop : (digits ++ rest).dropWhile Char.isDigit = rest := by
    rw [List.dropWhile_append_of_pos hdigits]
    cases rest with
    | nil => rfl
    | cons c rest => simp [(hrest c rfl).1]
  rw [readDigits?, htake, hdrop]
  cases digits with
  | nil => exact absurd rfl hne
  | cons c digits => rfl

theorem readFraction?_of_ends {rest : List Char} (h : EndsNumber rest) :
    readFraction? rest = some ([], rest) := by
  unfold readFraction?
  split
  · exact absurd rfl (h '.' rfl).2.1
  · rfl

theorem readExponent?_of_ends {rest : List Char} (h : EndsNumber rest) :
    readExponent? rest = some (none, rest) := by
  cases rest with
  | nil => rfl
  | cons c rest =>
    obtain ⟨-, -, he, hE⟩ := h c rfl
    simp [readExponent?, he, hE]

/-- Digits of a number that 64 bits hold are all appended. -/
theorem appendDigits_of_lt {digits : List Char} {n : Nat}
    (h : Nat.ofDigitChars 10 digits n < 0x10000000000000000) :
    appendDigits n digits = (Nat.ofDigitChars 10 digits n, 0) := by
  induction digits generalizing n with
  | nil => rfl
  | cons c digits ih =>
    rw [Nat.ofDigitChars_cons] at h ⊢
    -- the digits to come only make the number larger
    have hnext : 10 * n + (c.toNat - '0'.toNat) < 0x10000000000000000 := by
      rw [Nat.ofDigitChars_eq_ofDigitChars_zero] at h
      have hpow : 0 < 10 ^ digits.length := Nat.pow_pos (by omega)
      have hle := Nat.le_mul_of_pos_left (10 * n + (c.toNat - '0'.toNat)) hpow
      omega
    rw [appendDigits, if_pos hnext]
    exact ih h

/-- A number is not written with a zero before its digits. -/
theorem head?_toDigits_ne_zero {n : Nat} (h : 0 < n) : (Nat.toDigits 10 n).head? ≠ some '0' := by
  induction n using Nat.strongRecOn with
  | ind n ih =>
    rw [Nat.toDigits_eq_if (by omega)]
    split
    · simp only [List.head?_cons, ne_eq, Option.some.injEq, Nat.digitChar_eq_zero]
      omega
    · have hne : Nat.toDigits 10 (n / 10) ≠ [] := Nat.toDigits_ne_nil
      obtain ⟨c, cs, hcons⟩ := List.exists_cons_of_ne_nil hne
      have hhead := ih (n / 10) (by omega) (by omega)
      rw [hcons] at hhead ⊢
      exact hhead

/-- The digits of a number have no zero at their front, unless that zero is all. -/
theorem leadingZero_toDigits (n : Nat) :
    ((Nat.toDigits 10 n).length ≠ 1 && (Nat.toDigits 10 n).head? = some '0') = false := by
  rcases Nat.eq_zero_or_pos n with rfl | hpos
  · decide
  · simp [head?_toDigits_ne_zero hpos]

/-- Digits of an integer of 64 bits are read as that integer. -/
theorem number?_toDigits {n : Nat} {negative : Bool} (hnegative : negative = true → 0 < n)
    (hlow : negative = true → n ≤ 0x8000000000000000)
    (hhigh : negative = false → n < 0x8000000000000000) :
    number? negative (Nat.toDigits 10 n) [] none =
      some (.integer (if negative then -n else n)) := by
  have hvalue : Nat.ofDigitChars 10 (Nat.toDigits 10 n) 0 = n := Nat.ofDigitChars_ten_toDigits
  have hdigits : appendDigits 0 (Nat.toDigits 10 n) = (n, 0) := by
    rw [appendDigits_of_lt, hvalue]
    rw [hvalue]
    cases negative with
    | true => have := hlow rfl; omega
    | false => have := hhigh rfl; omega
  rw [number?, hdigits]
  cases negative with
  | true =>
    have hpos := hnegative rfl
    have hle := hlow rfl
    simp
    omega
  | false => simp

/-- The digits of an integer of 64 bits are read up to their end, behind its sign. -/
theorem readNumber?_toDigits (negative : Bool) {n : Nat} {rest : List Char}
    (hnegative : negative = true → 0 < n) (hlow : negative = true → n ≤ 0x8000000000000000)
    (hhigh : negative = false → n < 0x8000000000000000) (hrest : EndsNumber rest) :
    readNumber? ((if negative then ['-'] else []) ++ (Nat.toDigits 10 n ++ rest)) =
      some (.integer (if negative then -n else n), rest) := by
  have hall : ∀ c ∈ Nat.toDigits 10 n, c.isDigit = true := fun c hc =>
    Nat.isDigit_of_mem_toDigits (by decide) (by decide) hc
  have hread := readDigits?_append Nat.toDigits_ne_nil hall hrest
  have hminus (cs : List Char) : Nat.toDigits 10 n ++ rest ≠ '-' :: cs := by
    intro heq
    obtain ⟨c, digits, hcons⟩ :=
      List.exists_cons_of_ne_nil (Nat.toDigits_ne_nil (b := 10) (n := n))
    rw [hcons, List.cons_append, List.cons.injEq] at heq
    exact absurd (hall c (by simp [hcons])) (by rw [heq.1]; decide)
  have hnumber := number?_toDigits hnegative hlow hhigh
  cases negative with
  | true =>
    rw [if_pos rfl, List.singleton_append, readNumber?]
    simp only [Option.bind_eq_bind, hread, Option.bind_some, leadingZero_toDigits,
      Bool.false_eq_true, if_false, readFraction?_of_ends hrest, readExponent?_of_ends hrest,
      hnumber]
    rfl
  | false =>
    rw [if_neg Bool.false_ne_true, List.nil_append, readNumber?.eq_2 _ hminus]
    simp only [Option.bind_eq_bind, hread, Option.bind_some, leadingZero_toDigits,
      Bool.false_eq_true, if_false, readFraction?_of_ends hrest, readExponent?_of_ends hrest,
      hnumber]
    rfl

/-- An integer is written as its sign and its digits. -/
theorem toList_toString_integer (n : Int) :
    (toString n).toList = (if n < 0 then ['-'] else []) ++ Nat.toDigits 10 n.natAbs := by
  rw [Int.toString_eq_repr, Int.repr_eq_if]
  rcases Int.lt_or_le n 0 with hneg | hpos
  · rw [if_neg (by omega), if_pos hneg, String.toList_append, Nat.toList_repr,
      show (-n).toNat = n.natAbs by omega]
    rfl
  · rw [if_pos hpos, if_neg (by omega), Nat.toList_repr, show n.toNat = n.natAbs by omega]
    rfl

/-- An integer begins with its sign or a digit. -/
theorem toString_integer_begins (n : Int) :
    ∃ c cs, (toString n).toList = c :: cs ∧ (c = '-' ∨ c.isDigit = true) := by
  obtain ⟨c, cs, hcons⟩ :=
    List.exists_cons_of_ne_nil (Nat.toDigits_ne_nil (b := 10) (n := n.natAbs))
  have hdigit : c.isDigit = true :=
    Nat.isDigit_of_mem_toDigits (by decide) (by decide) (hcons ▸ List.mem_cons_self)
  rw [toList_toString_integer, hcons]
  split
  · exact ⟨'-', c :: cs, rfl, .inl rfl⟩
  · exact ⟨c, cs, rfl, .inr hdigit⟩

/-- An integer of 64 bits is read back. -/
theorem readNumber?_integer {n : Int} {rest : List Char} (hlow : -0x8000000000000000 ≤ n)
    (hhigh : n < 0x8000000000000000) (hrest : EndsNumber rest) :
    readNumber? ((toString n).toList ++ rest) = some (.integer n, rest) := by
  have hread := readNumber?_toDigits (decide (n < 0)) (n := n.natAbs) (by simp; omega)
    (by simp; omega) (by simp; omega) hrest
  simp only [decide_eq_true_eq] at hread
  rw [toList_toString_integer, List.append_assoc, hread]
  congr 3
  split <;> omega

end CommandTemplates.Json
