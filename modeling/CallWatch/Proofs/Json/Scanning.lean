import CallWatch.Json.Document
import CallWatch.Json.Printer
import CallWatch.Proofs.Text.Numerals
import Mathlib.Tactic.IntervalCases

/-!
What the scan of a JSON text makes of a printed value.

A printed value is read as the tokens of its tree. A word or a number ends only with the
character behind it, so after one the scan does not yet hold its token; `State.Stands` says that
it will, whatever comes next.
-/

namespace CallWatch.Json

open CallWatch.Text

/-! ### Numbers -/

namespace NumberLiteral

/-- The literal of a whole number. -/
def ofInt (n : Int) : NumberLiteral := ⟨n < 0, Numeral.digits n.natAbs, none, none⟩

/-- A whole number that fits into 64 bits, with a sign or without. -/
def Fits (n : Int) : Prop := -(UInt64.size : Int) ≤ 2 * n ∧ n < UInt64.size

lemma splitDigits?_digits (n : Nat) :
    splitDigits? (Numeral.digits n) = some (Numeral.digits n, []) := by
  have hne := Numeral.digits_ne_nil n
  rw [splitDigits?, Numeral.takeWhile_digits, Numeral.dropWhile_digits]
  cases hds : Numeral.digits n with
  | nil => exact absurd hds hne
  | cons d ds => rfl

lemma readUnsigned?_digits (negative : Bool) (n : Nat) :
    readUnsigned? negative (Numeral.digits n) = some ⟨negative, Numeral.digits n, none, none⟩ := by
  have hpadded := Numeral.not_padded_digits n
  rw [readUnsigned?, splitDigits?_digits]
  simp only [hpadded, if_false, readExponent?]

lemma read?_intDigits (n : Int) : read? (Numeral.intDigits n) = some (ofInt n) := by
  cases n with
  | ofNat n =>
    have hread : read? (Numeral.digits n) = readUnsigned? false (Numeral.digits n) := by
      unfold read?
      split
      · next cs he =>
        have hminus := Numeral.isDigit_of_mem_digits (n := n) (c := '-') (by simp [he])
        exact absurd hminus (by decide)
      · rfl
    rw [Numeral.intDigits, hread, readUnsigned?_digits]
    simp [ofInt]
  | negSucc n =>
    have hneg : Int.negSucc n < 0 := Int.negSucc_lt_zero n
    rw [Numeral.intDigits, read?, readUnsigned?_digits, ofInt]
    simp [hneg]

lemma value?_ofInt {n : Int} (h : Fits n) : (ofInt n).value? = some (.int n) := by
  obtain ⟨hlow, hhigh⟩ := h
  by_cases hn : n < 0
  · have hpos : 0 < n.natAbs ∧ 2 * n.natAbs ≤ UInt64.size := by omega
    simp [value?, ofInt, hn, hpos, abs_of_neg hn]
  · have hlt : n.natAbs < UInt64.size := by omega
    have habs : (n.natAbs : Int) = n := by omega
    simp [value?, ofInt, hn, hlt, habs]

end NumberLiteral

/-! ### Strings -/

namespace Piece

/-- How a printed string has a character: by its number if it is a control without an escape of
its own. -/
def written (c : Char) : Piece :=
  if c.toNat < 0x20 ∧ c ∉ ['\x08', '\x0c', '\n', '\r', '\t'] then .unit c.toNat else .char c

end Piece

namespace StringLiteral

def written (s : String) : StringLiteral := s.toList.map Piece.written

lemma chars?_written_cons (c : Char) (s : StringLiteral) :
    chars? (Piece.written c :: s) = (chars? s).map (c :: ·) := by
  unfold Piece.written
  split
  · next h =>
    have hhigh : isHigh c.toNat = false := by simp [isHigh]; omega
    have hlow : isLow c.toNat = false := by simp [isLow]; omega
    conv_lhs => unfold chars?
    simp [hhigh, hlow]
  · rfl

lemma text?_written (s : String) : text? (written s) = some s := by
  have hchars (cs : List Char) : chars? (cs.map Piece.written) = some cs := by
    induction cs with
    | nil => rfl
    | cons c cs ih => rw [List.map_cons, chars?_written_cons, ih, Option.map_some]
  rw [text?, written, hchars, Option.map_some, String.ofList_toList]

end StringLiteral

/-! ### The scan -/

namespace Scan

/-- A character that is part of no word and of no number. -/
def isBreak (c : Char) : Bool := !isNumberChar c && !c.isLower

/-- The tokens have been read, in reverse order, if the text ends or goes on with a break. -/
structure State.Stands (s : State) (ts : List Token) : Prop where
  finish : finish? s = some ts.reverse
  step : ∀ c, isBreak c = true → step s c = start ts c

lemma run_cons (s : State) (c : Char) (cs : List Char) :
    run s (c :: cs) = (step s c).bind fun t => run t cs := rfl

section

variable {ts : List Token} {s : State} {t : Token} {seen : List Char}

lemma stands_between (ts : List Token) : State.Stands ⟨ts, .between⟩ ts :=
  ⟨rfl, fun _ _ => rfl⟩

lemma stands_word (h : wordToken? seen = some t) : State.Stands ⟨ts, .word seen⟩ (t :: ts) where
  finish := by simp [finish?, h]
  step c hc := by
    have hlower : c.isLower = false := by
      simp only [isBreak, Bool.and_eq_true, Bool.not_eq_true'] at hc
      exact hc.2
    simp [step, hlower, h]

lemma stands_number (h : numberToken? seen = some t) :
    State.Stands ⟨ts, .number seen⟩ (t :: ts) where
  finish := by simp [finish?, h]
  step c hc := by
    have hnumber : isNumberChar c = false := by
      simp only [isBreak, Bool.and_eq_true, Bool.not_eq_true'] at hc
      exact hc.1
    simp [step, hnumber, h]

lemma State.Stands.run_cons (h : s.Stands ts) {c : Char} (hc : isBreak c = true)
    (cs : List Char) : run s (c :: cs) = (start ts c).bind fun t => run t cs := by
  rw [Scan.run_cons, h.step c hc]

lemma start_space {c : Char} (h : isSpace c = true) : start ts c = some ⟨ts, .between⟩ := by
  simp [start, h]

lemma run_spaces_between {cs : List Char} (h : cs.all isSpace = true) :
    run ⟨ts, .between⟩ cs = some ⟨ts, .between⟩ := by
  induction cs with
  | nil => rfl
  | cons c cs ih =>
    rw [List.all_cons, Bool.and_eq_true] at h
    have hstep : step ⟨ts, .between⟩ c = some ⟨ts, .between⟩ := start_space h.1
    rw [Scan.run_cons, hstep, Option.bind_some, ih h.2]

lemma isBreak_of_isSpace {c : Char} (h : isSpace c = true) : isBreak c = true := by
  simp only [isSpace, Bool.or_eq_true, decide_eq_true_eq] at h
  rcases h with ((rfl | rfl) | rfl) | rfl <;> rfl

/-- Spaces end what is before them. -/
lemma State.Stands.run_spaces (h : s.Stands ts) {c : Char} {cs : List Char}
    (hall : (c :: cs).all isSpace = true) : run s (c :: cs) = some ⟨ts, .between⟩ := by
  rw [List.all_cons, Bool.and_eq_true] at hall
  rw [h.run_cons (isBreak_of_isSpace hall.1), start_space hall.1, Option.bind_some,
    run_spaces_between hall.2]

lemma State.Stands.run_newline (h : s.Stands ts) (n : Nat) :
    run s (newline n) = some ⟨ts, .between⟩ :=
  h.run_spaces (by simp [isSpace])

/-! ### Literals -/

lemma run_number {cs : List Char} (h : cs.all isNumberChar = true) (seen : List Char) :
    run ⟨ts, .number seen⟩ cs = some ⟨ts, .number (cs.reverse ++ seen)⟩ := by
  induction cs generalizing seen with
  | nil => rfl
  | cons c cs ih =>
    rw [List.all_cons, Bool.and_eq_true] at h
    have hstep : step ⟨ts, .number seen⟩ c = some ⟨ts, .number (c :: seen)⟩ := by
      simp [step, h.1]
    rw [Scan.run_cons, hstep, Option.bind_some, ih h.2]
    simp

lemma start_digit {c : Char} {n : Nat} (h : c ∈ Numeral.digits n) :
    start ts c = some ⟨ts, .number [c]⟩ := by
  obtain ⟨d, hd, rfl⟩ := Numeral.eq_digitChar_of_mem_digits h
  interval_cases d <;> rfl

lemma all_isNumberChar_digits (n : Nat) : (Numeral.digits n).all isNumberChar = true := by
  rw [List.all_eq_true]
  intro c hc
  simp [isNumberChar, Numeral.isDigit_of_mem_digits hc]

/-- A whole number has been read, as far as it is written. -/
lemma run_intDigits (n : Int) :
    run ⟨ts, .between⟩ (Numeral.intDigits n) =
      some ⟨ts, .number (Numeral.intDigits n).reverse⟩ := by
  cases n with
  | ofNat n =>
    have hall := all_isNumberChar_digits n
    rw [Numeral.intDigits]
    cases hds : Numeral.digits n with
    | nil => exact absurd hds (Numeral.digits_ne_nil n)
    | cons d ds =>
      have hstart : step ⟨ts, .between⟩ d = some ⟨ts, .number [d]⟩ :=
        start_digit (n := n) (by simp [hds])
      rw [hds, List.all_cons, Bool.and_eq_true] at hall
      rw [Scan.run_cons, hstart, Option.bind_some, run_number hall.2]
      simp
  | negSucc n =>
    have hstart : step ⟨ts, .between⟩ '-' = some ⟨ts, .number ['-']⟩ := rfl
    rw [Numeral.intDigits, Scan.run_cons, hstart, Option.bind_some,
      run_number (all_isNumberChar_digits _)]
    simp

lemma exists_run_intDigits (n : Int) : ∃ s, run ⟨ts, .between⟩ (Numeral.intDigits n) = some s ∧
    s.Stands (.number (.ofInt n) :: ts) := by
  refine ⟨_, run_intDigits n, stands_number ?_⟩
  rw [numberToken?, List.reverse_reverse, NumberLiteral.read?_intDigits, Option.map_some]

/-- One escaped character of a string. -/
lemma run_escapeChar (ps : List Piece) (c : Char) :
    run ⟨ts, .string ps⟩ (escapeChar c) = some ⟨ts, .string (Piece.written c :: ps)⟩ := by
  unfold escapeChar
  split_ifs with h1 h2 h3 h4 h5 h6 h7 h8
  · subst h1; rfl
  · subst h2; rfl
  · subst h3; rfl
  · subst h4; rfl
  · subst h5; rfl
  · subst h6; rfl
  · subst h7; rfl
  · have hw : Piece.written c = .unit c.toNat := by simp [Piece.written, *]
    have hdigit (n : Nat) := Numeral.hexValue?_hexChar false (n % 16) (Nat.mod_lt _ (by decide))
    have hvalue := Numeral.hexQuad_value (n := c.toNat) (by omega)
    have hstart : step ⟨ts, .string ps⟩ '\\' = some ⟨ts, .escape ps⟩ := rfl
    have hunit : step ⟨ts, .escape ps⟩ 'u' = some ⟨ts, .unit ps 4 0⟩ := rfl
    rw [hw, Scan.run_cons, hstart, Option.bind_some, Scan.run_cons, hunit, Option.bind_some]
    simp [run, step, Numeral.hexQuad, hdigit, hvalue]
  · have hw : Piece.written c = .char c := by simp [Piece.written, h8]
    simp [run, step, h1, h2, h8, hw]

lemma run_stringChars (s : String) : run ⟨ts, .between⟩ (stringChars s) =
    some ⟨.string (.written s) :: ts, .between⟩ := by
  have hinside (cs : List Char) (ps : List Piece) : run ⟨ts, .string ps⟩ (cs.flatMap escapeChar) =
      some ⟨ts, .string ((cs.map Piece.written).reverse ++ ps)⟩ := by
    induction cs generalizing ps with
    | nil => rfl
    | cons c cs ih =>
      rw [List.flatMap_cons, run_append, run_escapeChar, Option.bind_some, ih]
      simp
  have hstart : step ⟨ts, .between⟩ '"' = some ⟨ts, .string []⟩ := rfl
  have hend (ps : List Piece) : run ⟨ts, .string ps⟩ ['"'] =
      some ⟨.string ps.reverse :: ts, .between⟩ := rfl
  rw [stringChars, List.cons_append, Scan.run_cons, hstart, Option.bind_some, run_append, hinside,
    Option.bind_some, hend]
  simp [StringLiteral.written]

end

end Scan

end CallWatch.Json
