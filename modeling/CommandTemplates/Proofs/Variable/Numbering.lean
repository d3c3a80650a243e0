/-
The number that names a new record.

`Registry.search` is the loop that finds it: it tests one number of 64 bits after the
other, and what bounds the number of tests here is no part of the loop.  Of one more
numbers than there are records one is free, so that many tests are enough, and more
make no difference; if there are fewer records than numbers, the search meets the least
free one before the numbers are used up.

* `Registry.isLeast_leastFreeNumber` — the least free number is the least one that is
  no record's name in lowercase;
* `Registry.leastFreeNumber_le` — it is at most one more than there are records;
* `Registry.search_of_forall_isTaken` — the search passes over taken numbers, one test each;
* `Registry.create_takes_least` — the search ends at the least free number, which a new
  record is named by.
-/
import CommandTemplates.Proofs.Variable.Edits
import Mathlib.Algebra.Group.Nat.Defs
import Mathlib.Order.Bounds.Defs

namespace CommandTemplates

namespace Registry

variable {r : Registry}

/-! ### The least free number -/

/-- Whether a number is the name of no record, in lowercase. -/
def IsFree (r : Registry) (n : Nat) : Prop := ∀ c ∈ r.custom, Text.lowercase c.name ≠ toString n

theorem isTaken_toString_eq_false_iff {n : Nat} : r.isTaken (toString n) = false ↔ r.IsFree n := by
  rw [← Bool.not_eq_true, isTaken_iff, Text.lowercase_toString]
  simp [IsFree]

theorem leastFreeNumber_le (r : Registry) : r.leastFreeNumber ≤ r.custom.length + 1 := by
  have hmem := List.mem_of_find?_eq_some r.find?_leastFreeNumber
  have hbounds := List.mem_range'_1.1 hmem
  omega

theorem one_le_leastFreeNumber (r : Registry) : 1 ≤ r.leastFreeNumber :=
  (List.mem_range'_1.1 (List.mem_of_find?_eq_some r.find?_leastFreeNumber)).1

theorem isTaken_of_lt_leastFreeNumber {n : Nat} (hn : 1 ≤ n) (hlt : n < r.leastFreeNumber) :
    r.isTaken (toString n) = true := by
  have hbefore := (List.find?_range'_eq_some.1 r.find?_leastFreeNumber).2.2 n hn hlt
  simpa using hbefore

theorem isLeast_leastFreeNumber (r : Registry) :
    IsLeast {n | 1 ≤ n ∧ r.IsFree n} r.leastFreeNumber := by
  constructor
  · exact ⟨r.one_le_leastFreeNumber,
      isTaken_toString_eq_false_iff.1 r.not_isTaken_leastFreeNumber⟩
  · rintro n ⟨hn, hfree⟩
    by_contra hlt
    have htaken := isTaken_of_lt_leastFreeNumber hn (Nat.lt_of_not_le hlt)
    rw [isTaken_toString_eq_false_iff.2 hfree] at htaken
    exact Bool.false_ne_true htaken

/-! ### The search -/

/-- Tests numbers of 64 bits from `number` on, until one names no record.  There is no result if
this needs more than `tests` tests. -/
def search (r : Registry) : Nat → UInt64 → Option UInt64
  | 0, _ => none
  | tests + 1, number =>
    if r.isTaken (toString number.toNat) then r.search tests (number + 1) else some number

theorem search_of_isTaken {number : UInt64} (h : r.isTaken (toString number.toNat) = true)
    (tests : Nat) : r.search (tests + 1) number = r.search tests (number + 1) := by
  rw [search, if_pos h]

theorem search_of_not_isTaken {number : UInt64}
    (h : r.isTaken (toString number.toNat) = false) (tests : Nat) :
    r.search (tests + 1) number = some number := by
  rw [search, h, if_neg Bool.false_ne_true]

/-- Below the largest number the next one is greater by one. -/
theorem toNat_succ {number : UInt64} (h : number.toNat + 1 < 2 ^ 64) :
    (number + 1).toNat = number.toNat + 1 := by
  rw [UInt64.toNat_add]
  exact Nat.mod_eq_of_lt h

/-- The search passes over numbers that are all taken, with one test for each. -/
theorem search_of_forall_isTaken {number : UInt64} {k : Nat} (hfits : number.toNat + k < 2 ^ 64)
    (htaken : ∀ n, number.toNat ≤ n → n < number.toNat + k → r.isTaken (toString n) = true) :
    ∃ reached : UInt64, reached.toNat = number.toNat + k ∧
      ∀ tests, r.search (tests + k) number = r.search tests reached := by
  induction k generalizing number with
  | zero => exact ⟨number, rfl, fun _ => rfl⟩
  | succ k ih =>
    have hfirst : r.isTaken (toString number.toNat) = true :=
      htaken number.toNat (Nat.le_refl _) (by omega)
    have hnext : (number + 1).toNat = number.toNat + 1 := toNat_succ (by omega)
    -- the numbers fit into 64 bits up to the end, so the next one is not zero again
    have hrest : ∀ n, (number + 1).toNat ≤ n → n < (number + 1).toNat + k →
        r.isTaken (toString n) = true := by
      intro n hle hlt
      exact htaken n (by omega) (by omega)
    obtain ⟨reached, hreached, hsearch⟩ := ih (by omega) hrest
    refine ⟨reached, by omega, fun tests => ?_⟩
    rw [← Nat.add_assoc, search_of_isTaken hfirst, hsearch]

/-- The search from one on ends at the least free number, and makes as many tests. -/
theorem search_one (h : r.custom.length < 2 ^ 64 - 1) :
    ∃ number : UInt64, number.toNat = r.leastFreeNumber ∧
      ∀ tests, r.leastFreeNumber ≤ tests → r.search tests 1 = some number := by
  have hone : (1 : UInt64).toNat = 1 := rfl
  have hpos := r.one_le_leastFreeNumber
  have hle := r.leastFreeNumber_le
  have htaken : ∀ n, (1 : UInt64).toNat ≤ n →
      n < (1 : UInt64).toNat + (r.leastFreeNumber - 1) → r.isTaken (toString n) = true := by
    intro n hn hlt
    exact isTaken_of_lt_leastFreeNumber (by omega) (by omega)
  obtain ⟨number, hnumber, hsearch⟩ := search_of_forall_isTaken (by omega) htaken
  have hleast : number.toNat = r.leastFreeNumber := by omega
  have hfree : r.isTaken (toString number.toNat) = false := by
    rw [hleast]
    exact r.not_isTaken_leastFreeNumber
  refine ⟨number, hleast, fun tests htests => ?_⟩
  -- one test for the number itself, after those of the numbers before it
  obtain ⟨more, rfl⟩ : ∃ more, tests = more + 1 + (r.leastFreeNumber - 1) :=
    ⟨tests - r.leastFreeNumber, by omega⟩
  rw [hsearch, search_of_not_isTaken hfree]

/-! ### A new record -/

/-- The search for a name ends, after at most one more tests than there are records, as long as
there are fewer records than numbers.  It ends at the least number from one on that is no record's
name in lowercase.  The new record is named by it, which a check of names would accept, and stands
behind all others, which stay as they are. -/
theorem create_takes_least (r : Registry) (freshId : VariableId)
    (h : r.custom.length < 2 ^ 64 - 1) :
    ∃ number : UInt64,
      (∀ tests, r.custom.length + 1 ≤ tests → r.search tests 1 = some number) ∧
      IsLeast {n | 1 ≤ n ∧ ∀ c ∈ r.custom, Text.lowercase c.name ≠ toString n} number.toNat ∧
      r.validateName (toString number.toNat) = .ok () ∧
      (r.create freshId).1 = ⟨freshId, toString number.toNat, ""⟩ ∧
      (r.create freshId).2.custom = r.custom ++ [(r.create freshId).1] := by
  obtain ⟨number, hnumber, hsearch⟩ := search_one h
  refine ⟨number, fun tests htests => ?_, ?_, ?_, ?_, rfl⟩
  · exact hsearch tests (Nat.le_trans r.leastFreeNumber_le htests)
  · rw [hnumber]
    exact r.isLeast_leastFreeNumber
  · rw [hnumber, validateName_eq_ok_iff]
    exact ⟨isVariableName_toString r.leastFreeNumber, r.not_isTaken_leastFreeNumber⟩
  · rw [hnumber]
    rfl

/-- The names leave a gap at three, and the name that is no number does not count. -/
theorem create_takes_least_gap :
    let r : Registry := ⟨[⟨"a", "2", ""⟩, ⟨"b", "Ab", ""⟩, ⟨"c", "1", ""⟩, ⟨"d", "4", ""⟩]⟩
    r.custom.length < 2 ^ 64 - 1 ∧ r.search 5 1 = some 3 ∧
      r.validateName "3" = .ok () ∧ (r.create "e").1 = ⟨"e", "3", ""⟩ := by
  intro r
  have hlength : r.custom.length < 2 ^ 64 - 1 := by decide
  obtain ⟨number, hsearch, hleast, hvalid, hcreated, -⟩ := create_takes_least r "e" hlength
  have hthree : number = 3 := by
    have hname : (r.create "e").1.name = toString 3 := by decide +kernel
    rw [hcreated] at hname
    exact UInt64.toNat_inj.1 (Text.toString_injective hname)
  subst hthree
  exact ⟨hlength, hsearch 5 (Nat.le_refl 5), hvalid, hcreated⟩

end Registry

end CommandTemplates
