import CallWatch.Text.Numeral
import Mathlib.Data.List.Basic
import Mathlib.Data.List.TakeWhile
import Mathlib.Tactic.Common
import Mathlib.Tactic.Lemma
import Mathlib.Tactic.Ring

/-!
What readers of numbers need to know about printed numerals: they consist of digits, only zero
begins with a zero, and four hexadecimal digits are read back one after the other.
-/

namespace CallWatch.Text.Numeral

lemma text_injective : Function.Injective text := fun a b h => by
  rw [← value_digits a, ← value_digits b, String.ofList_injective h]

lemma takeWhile_digits (n : Nat) : (digits n).takeWhile Char.isDigit = digits n :=
  List.takeWhile_eq_self_iff.mpr fun _ hc => isDigit_of_mem_digits hc

lemma dropWhile_digits (n : Nat) : (digits n).dropWhile Char.isDigit = [] :=
  List.dropWhile_eq_nil_iff.mpr fun _ hc => isDigit_of_mem_digits hc

lemma takeWhile_digits_append (n : Nat) {c : Char} (hc : c.isDigit = false) (rest : List Char) :
    (digits n ++ c :: rest).takeWhile Char.isDigit = digits n := by
  rw [List.takeWhile_append_of_pos fun _ hd => isDigit_of_mem_digits hd,
    List.takeWhile_cons_of_neg (by simp [hc]), List.append_nil]

lemma dropWhile_digits_append (n : Nat) {c : Char} (hc : c.isDigit = false) (rest : List Char) :
    (digits n ++ c :: rest).dropWhile Char.isDigit = c :: rest := by
  rw [List.dropWhile_append_of_pos fun _ hd => isDigit_of_mem_digits hd,
    List.dropWhile_cons_of_neg (by simp [hc])]

lemma head?_digits_ne {n : Nat} (h : 0 < n) : (digits n).head? ≠ some '0' := by
  induction n using Nat.strongRecOn with
  | ind n ih =>
    rcases Nat.lt_or_ge n 10 with hn | hn
    · rw [digits_of_lt hn, List.head?_cons]
      intro he
      have hvalue := digitValue_digitChar n hn
      have hzero : digitValue '0' = 0 := rfl
      rw [Option.some.inj he] at hvalue
      omega
    · rw [digits_of_ge hn, List.head?_append_of_ne_nil _ (digits_ne_nil _)]
      exact ih _ (by omega) (by omega)

/-- A numeral of several digits does not begin with a zero. -/
lemma not_padded_digits (n : Nat) :
    ¬((digits n).length > 1 ∧ (digits n).head? = some '0') := by
  rintro ⟨hlength, hhead⟩
  rcases Nat.eq_zero_or_pos n with rfl | hn
  · rw [digits_of_lt (by decide)] at hlength
    exact absurd hlength (by decide)
  · exact head?_digits_ne hn hhead

lemma length_digits_le {w n : Nat} (h : n < 10 ^ (w + 1)) : (digits n).length ≤ w + 1 := by
  induction w generalizing n with
  | zero =>
    rw [digits_of_lt (by omega)]
    exact Nat.le_refl 1
  | succ w ih =>
    rcases Nat.lt_or_ge n 10 with hn | hn
    · rw [digits_of_lt hn, List.length_singleton]
      omega
    · have hlength := ih (n := n / 10) (by rw [pow_succ] at h; omega)
      rw [digits_of_ge hn, List.length_append, List.length_singleton]
      omega

lemma length_padded {w n : Nat} (h : n < 10 ^ (w + 1)) : (padded (w + 1) n).length = w + 1 := by
  have hlength := length_digits_le h
  rw [padded, List.length_append, List.length_replicate]
  omega

lemma isDigit_of_mem_padded {w n : Nat} {c : Char} (h : c ∈ padded w n) : c.isDigit = true := by
  rcases List.mem_append.mp h with h | h
  · rw [List.eq_of_mem_replicate h]
    rfl
  · exact isDigit_of_mem_digits h

lemma value_append_zeros (cs : List Char) (k : Nat) :
    value (cs ++ List.replicate k '0') = value cs * 10 ^ k := by
  induction k with
  | zero => rw [List.replicate_zero, List.append_nil, pow_zero, Nat.mul_one]
  | succ k ih =>
    have hzero : digitValue '0' = 0 := rfl
    rw [List.replicate_succ', ← List.append_assoc, value_append, ih, hzero, pow_succ]
    ring

/-- Reading digits of base 16 from the front, each after what has been read. -/
lemma hexQuad_value {n : Nat} (h : n < 65536) :
    16 * (16 * (16 * (n / 4096 % 16) + n / 256 % 16) + n / 16 % 16) + n % 16 = n := by
  omega

end CallWatch.Text.Numeral
