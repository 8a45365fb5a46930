/-!
Decimal numerals.

`digits n` is the shortest decimal writing of `n`, `padded w n` the same filled up with
zeros to `w` places, `value` reads digits back: `value_digits` and `value_padded` say that
nothing is lost.
-/

namespace CallWatch.Text.Numeral

def digitChar (d : Nat) : Char := Char.ofNat ('0'.toNat + d)

def digitValue (c : Char) : Nat := c.toNat - '0'.toNat

def digits (n : Nat) : List Char :=
  if n < 10 then [digitChar n] else digits (n / 10) ++ [digitChar (n % 10)]
termination_by n

def padded (width n : Nat) : List Char :=
  List.replicate (width - (digits n).length) '0' ++ digits n

/-- The number that a list of digits writes, most significant first. -/
def value (cs : List Char) : Nat := cs.foldl (fun n c => 10 * n + digitValue c) 0

def text (n : Nat) : String := String.ofList (digits n)

def dropPlus : List Char → List Char
  | '+' :: cs => cs
  | cs => cs

/-- The number that digits write, perhaps after a plus sign. -/
def natural? (cs : List Char) : Option Nat :=
  let ds := dropPlus cs
  if ds ≠ [] ∧ ds.all Char.isDigit then some (value ds) else none

/-- An optional minus sign and digits. -/
def intDigits : Int → List Char
  | .ofNat n => digits n
  | .negSucc n => '-' :: digits (n + 1)

def hexChar (upper : Bool) (d : Nat) : Char :=
  if d < 10 then digitChar d else Char.ofNat ((if upper then 'A' else 'a').toNat + (d - 10))

def hexDigits (n : Nat) : List Char :=
  if n < 16 then [hexChar false n] else hexDigits (n / 16) ++ [hexChar false (n % 16)]
termination_by n

/-- Four hexadecimal digits of a number below 2^16. -/
def hexQuad (upper : Bool) (n : Nat) : List Char :=
  [n / 4096 % 16, n / 256 % 16, n / 16 % 16, n % 16].map (hexChar upper)

def hexValue? (c : Char) : Option Nat :=
  if c.isDigit then some (digitValue c)
  else if 'a' ≤ c ∧ c ≤ 'f' then some (c.toNat - 'a'.toNat + 10)
  else if 'A' ≤ c ∧ c ≤ 'F' then some (c.toNat - 'A'.toNat + 10)
  else none

theorem digitValue_digitChar : ∀ d < 10, digitValue (digitChar d) = d := by decide

theorem isDigit_digitChar : ∀ d < 10, (digitChar d).isDigit = true := by decide

theorem hexValue?_hexChar (upper : Bool) : ∀ d < 16, hexValue? (hexChar upper d) = some d := by
  cases upper <;> decide

theorem digits_of_lt {n : Nat} (h : n < 10) : digits n = [digitChar n] := by
  rw [digits, if_pos h]

theorem digits_of_ge {n : Nat} (h : 10 ≤ n) :
    digits n = digits (n / 10) ++ [digitChar (n % 10)] := by
  rw [digits, if_neg (by omega)]

theorem digits_ne_nil (n : Nat) : digits n ≠ [] := by
  rw [digits]; split <;> simp

theorem value_append (cs : List Char) (c : Char) :
    value (cs ++ [c]) = 10 * value cs + digitValue c := by
  simp [value]

@[simp] theorem value_digits (n : Nat) : value (digits n) = n := by
  induction n using Nat.strongRecOn with
  | ind n ih =>
    rcases Nat.lt_or_ge n 10 with h | h
    · simp [digits_of_lt h, value, digitValue_digitChar n h]
    · rw [digits_of_ge h, value_append, ih _ (by omega),
        digitValue_digitChar _ (Nat.mod_lt _ (by decide))]
      omega

theorem value_replicate_zero (k : Nat) (cs : List Char) :
    value (List.replicate k '0' ++ cs) = value cs := by
  induction k with
  | zero => rfl
  | succ k ih => simpa [List.replicate_succ, value, show digitValue '0' = 0 from rfl] using ih

@[simp] theorem value_padded (w n : Nat) : value (padded w n) = n := by
  simp [padded, value_replicate_zero]

theorem eq_digitChar_of_mem_digits {n : Nat} {c : Char} (h : c ∈ digits n) :
    ∃ d, d < 10 ∧ c = digitChar d := by
  induction n using Nat.strongRecOn with
  | ind n ih =>
    rcases Nat.lt_or_ge n 10 with hn | hn
    · rw [digits_of_lt hn, List.mem_singleton] at h
      exact ⟨n, hn, h⟩
    · rw [digits_of_ge hn, List.mem_append, List.mem_singleton] at h
      rcases h with h | h
      · exact ih _ (by omega) h
      · exact ⟨n % 10, Nat.mod_lt _ (by decide), h⟩

theorem isDigit_of_mem_digits {n : Nat} {c : Char} (h : c ∈ digits n) : c.isDigit = true := by
  obtain ⟨d, hd, rfl⟩ := eq_digitChar_of_mem_digits h
  exact isDigit_digitChar d hd

end CallWatch.Text.Numeral
