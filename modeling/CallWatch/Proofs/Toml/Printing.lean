import CallWatch.Proofs.Toml.Quoting
import CallWatch.Toml.Printer
import CallWatch.Toml.Statement

/-!
Printed lines of TOML are read back.

A line gives a plain value to a bare name, or it is the header of a section. The scan finds the
tokens of the line, and the reader makes its statement from them. A number is read back as a
whole number: it has no sign, no underscore and no idle zero.
-/

namespace CallWatch.Toml

open CallWatch.Text

/-- The document that a plain value stands for. -/
def Leaf.document : Leaf → Document
  | .bool b => .bool b
  | .number n => .int n
  | .text s => .text s

/-! ### Numbers -/

section Scalar

variable {n : Nat} {c : Char}

lemma isDigitOf_of_mem_digits (h : c ∈ Numeral.digits n) : isDigitOf 10 c = true := by
  obtain ⟨d, hd, rfl⟩ := Numeral.eq_digitChar_of_mem_digits h
  simp [isDigitOf, Numeral.hexValue?, Numeral.isDigit_digitChar d hd,
    Numeral.digitValue_digitChar d hd, hd]

/-- The digits of a number from the front. -/
lemma exists_digits_eq_cons (n : Nat) : ∃ c cs, Numeral.digits n = c :: cs ∧ c.isDigit = true ∧
    ∀ d ∈ cs, d.isDigit = true := by
  cases h : Numeral.digits n with
  | nil => exact absurd h (Numeral.digits_ne_nil n)
  | cons c cs =>
    have hdigit (d : Char) (hd : d ∈ c :: cs) : d.isDigit = true :=
      Numeral.isDigit_of_mem_digits (n := n) (h ▸ hd)
    exact ⟨c, cs, rfl, hdigit c List.mem_cons_self, fun d hd => hdigit d (List.mem_cons_of_mem _ hd)⟩

lemma natural?_digits (n : Nat) : natural? 10 (Numeral.digits n) = some n := by
  have hall : (Numeral.digits n).all (isDigitOf 10) = true :=
    List.all_eq_true.mpr fun _ hc => isDigitOf_of_mem_digits hc
  have hfold : (Numeral.digits n).foldl (fun n c => 10 * n + (Numeral.hexValue? c).getD 0) 0 =
      Numeral.value (Numeral.digits n) := by
    refine List.foldl_ext _ _ 0 fun m c hc => ?_
    simp [Numeral.hexValue?, Numeral.isDigit_of_mem_digits hc]
  rw [natural?, if_pos ⟨Numeral.digits_ne_nil n, hall⟩, hfold, Numeral.value_digits]

lemma int?_digits (n : Nat) : int? 10 (Numeral.digits n) = some (n : Int) := by
  obtain ⟨c, cs, hcs, hc, -⟩ := exists_digits_eq_cons n
  have hunsigned : int? 10 (Numeral.digits n) =
      (natural? 10 (Numeral.digits n)).map fun n => (n : Int) := by
    rw [hcs, int?]
    · rintro _ ⟨⟩
      exact absurd hc (by decide)
    · rintro _ ⟨⟩
      exact absurd hc (by decide)
  rw [hunsigned, natural?_digits]
  rfl

lemma whole?_digits (n : Nat) : whole? 10 (Numeral.digits n) = some (.int n) := by
  have hpieces : pieces '_' (Numeral.digits n) = [Numeral.digits n] :=
    pieces_of_not_mem fun h => absurd (Numeral.isDigit_of_mem_digits h) (by decide)
  simp [whole?, withoutGaps?, hpieces, meetInDigits, int?_digits]

lemma decimal?_digits (n : Nat) :
    decimal? (Numeral.digits n) (Numeral.digits n) = some (.int n) := by
  have hzero : hasIdleZero (Numeral.digits n) = false := by
    have hpadded := Numeral.not_padded_digits n
    simp only [hasIdleZero, Bool.and_eq_false_imp, decide_eq_true_eq, decide_eq_false_iff_not]
    exact fun hlength hhead => hpadded ⟨hlength, hhead⟩
  simp [decimal?, Numeral.dropWhile_digits, startsWith, hzero, whole?_digits]

lemma scalar?_digits (n : Nat) : scalar? (Numeral.digits n) = some (.int n) := by
  obtain ⟨c, cs, hcs, hc, htail⟩ := exists_digits_eq_cons n
  have hne (d : Char) (hd : d.isDigit = false) : c ≠ d := by
    rintro rfl
    rw [hc] at hd
    exact Bool.noConfusion hd
  have hsign : dropSign (Numeral.digits n) = Numeral.digits n := by
    rw [hcs, dropSign]
    · rintro _ ⟨⟩
      exact absurd hc (by decide)
    · rintro _ ⟨⟩
      exact absurd hc (by decide)
  have hbase (d : Char) (ds : List Char) (hd : d.isDigit = false) :
      Numeral.digits n ≠ '0' :: d :: ds := by
    rw [hcs]
    rintro ⟨⟩
    rw [htail d List.mem_cons_self] at hd
    exact Bool.noConfusion hd
  have hstart : startsWith isDigitOrGap (Numeral.digits n) = true := by
    simp [hcs, startsWith, isDigitOrGap, hc]
  have htrue : Numeral.digits n ≠ ['t', 'r', 'u', 'e'] := by
    simp [hcs, hne 't' rfl]
  have hfalse : Numeral.digits n ≠ ['f', 'a', 'l', 's', 'e'] := by
    simp [hcs, hne 'f' rfl]
  have hspecial : special.contains (Numeral.digits n) = false := by
    simp [special, hcs, hne 'i' rfl, hne 'n' rfl]
  rw [scalar?, hsign, if_neg htrue, if_neg hfalse, hspecial, if_neg Bool.false_ne_true,
    if_pos hstart, decimal?_digits]
  · exact fun ds => hbase 'x' ds rfl
  · exact fun ds => hbase 'o' ds rfl
  · exact fun ds => hbase 'b' ds rfl

end Scalar

/-! ### Tokens -/

/-- The token of a printed value. -/
def Leaf.token : Leaf → Token
  | .text s => .text s.toList ((Form.ofText s.toList).extent = .single)
  | v => .word v.chars

abbrev Entry := String × Leaf

abbrev Section := String × List Entry

def Entry.tokens (e : Entry) : List Token :=
  [.word e.1.toList, .blank [' '], .equals, .blank [' '], e.2.token, .newline]

def Section.tokens (s : Section) : List Token :=
  [.newline, .beginList, .word s.1.toList, .endList, .newline] ++ s.2.flatMap Entry.tokens

/-- A name that needs no quotes. -/
def IsBare (name : String) : Prop :=
  name.toList ≠ [] ∧ name.toList.all Reader.isBareNameChar = true

instance : DecidablePred IsBare := fun _ => inferInstanceAs (Decidable (_ ∧ _))

namespace Scan

variable {ts : List Token} {c : Char} {cs seen : List Char}

lemma bare_ne {d : Char} (h : Reader.isBareNameChar c = true)
    (hd : Reader.isBareNameChar d = false) : c ≠ d := by
  rintro rfl
  rw [h] at hd
  exact Bool.noConfusion hd

lemma punctuation?_bare (h : Reader.isBareNameChar c = true) : punctuation? c = none := by
  unfold punctuation?
  split <;> first | rfl | exact absurd h (by decide)

lemma start_bare (h : Reader.isBareNameChar c = true) : start ts c = ⟨ts, .word [c]⟩ := by
  simp [start, punctuation?_bare h, isBlank, bare_ne (d := '\n') h rfl, bare_ne (d := '\r') h rfl,
    bare_ne (d := '#') h rfl, bare_ne (d := '"') h rfl, bare_ne (d := '\x27') h rfl,
    bare_ne (d := ' ') h rfl, bare_ne (d := '\t') h rfl]

lemma isWordChar_bare (h : Reader.isBareNameChar c = true) : isWordChar c = true := by
  simp [isWordChar, punctuation?_bare h, isBlank, bare_ne (d := '\n') h rfl,
    bare_ne (d := '\r') h rfl, bare_ne (d := '#') h rfl, bare_ne (d := ' ') h rfl,
    bare_ne (d := '\t') h rfl]

lemma run_wordChars (h : cs.all Reader.isBareNameChar = true) :
    run ⟨ts, .word seen⟩ cs = some ⟨ts, .word (cs.reverse ++ seen)⟩ := by
  induction cs generalizing seen with
  | nil => rfl
  | cons c cs ih =>
    rw [List.all_cons, Bool.and_eq_true] at h
    have hstep : step ⟨ts, .word seen⟩ c = some ⟨ts, .word (c :: seen)⟩ := by
      simp [step, isWordChar_bare h.1]
    rw [run_cons, hstep, Option.bind_some, ih h.2]
    simp

lemma run_word (hne : cs ≠ []) (h : cs.all Reader.isBareNameChar = true) :
    run ⟨ts, .between⟩ cs = some ⟨ts, .word cs.reverse⟩ := by
  cases cs with
  | nil => exact absurd rfl hne
  | cons c cs =>
    rw [List.all_cons, Bool.and_eq_true] at h
    have hstep : step ⟨ts, .between⟩ c = some ⟨ts, .word [c]⟩ := by
      rw [step, start_bare h.1]
    rw [run_cons, hstep, Option.bind_some, run_wordChars h.2, List.reverse_cons]

lemma ends_word : State.Ends ⟨ts, .word cs.reverse⟩ (.word cs :: ts) := by
  simp [State.Ends, step, isWordChar, start, punctuation?]

/-- Something solid ends a blank. -/
lemma run_blank (h : isBlank c = false) :
    run ⟨ts, .blank seen⟩ (c :: cs) = run ⟨.blank seen.reverse :: ts, .between⟩ (c :: cs) := by
  have hstep : step ⟨ts, .blank seen⟩ c = step ⟨.blank seen.reverse :: ts, .between⟩ c := by
    simp [step, h]
  rw [run_cons, hstep, run_cons]

end Scan

open Scan

lemma isBareNameChar_of_isDigit {c : Char} (h : c.isDigit = true) :
    Reader.isBareNameChar c = true := by
  simp [Reader.isBareNameChar, Char.isAlphanum, h]

/-- A value that is no text is a word. -/
lemma Leaf.bare_or_text (v : Leaf) : (v.chars ≠ [] ∧ v.chars.all Reader.isBareNameChar = true ∧
    v.token = .word v.chars) ∨ ∃ s, v = .text s := by
  match v with
  | .bool true => exact Or.inl ⟨nofun, rfl, rfl⟩
  | .bool false => exact Or.inl ⟨nofun, rfl, rfl⟩
  | .number n =>
    refine Or.inl ⟨Numeral.digits_ne_nil n, List.all_eq_true.mpr fun c hc => ?_, rfl⟩
    exact isBareNameChar_of_isDigit (Numeral.isDigit_of_mem_digits hc)
  | .text s => exact Or.inr ⟨s, rfl⟩

lemma exists_run_leaf (v : Leaf) (ts : List Token) :
    ∃ s, run ⟨ts, .between⟩ v.chars = some s ∧ s.Ends (v.token :: ts) := by
  obtain ⟨hne, hbare, htoken⟩ | ⟨s, rfl⟩ := v.bare_or_text
  · exact ⟨_, run_word hne hbare, htoken ▸ ends_word⟩
  · exact exists_run_write (suits_ofText s.toList)

/-- What is written begins with a quote. -/
lemma Form.exists_write_eq_cons (f : Form) (cs : List Char) :
    ∃ rest, f.write cs = f.quote.char :: rest := by
  obtain ⟨q, e⟩ := f
  cases e
  · exact ⟨_, rfl⟩
  · exact ⟨_, rfl⟩

/-- A value begins with something solid. -/
lemma Leaf.exists_chars_eq_cons (v : Leaf) : ∃ c cs, v.chars = c :: cs ∧ Scan.isBlank c = false := by
  obtain ⟨hne, hbare, -⟩ | ⟨s, rfl⟩ := v.bare_or_text
  · obtain ⟨c, cs, hcs⟩ := List.exists_cons_of_ne_nil hne
    rw [hcs, List.all_cons, Bool.and_eq_true] at hbare
    have hspace := bare_ne (d := ' ') hbare.1 rfl
    have htab := bare_ne (d := '\t') hbare.1 rfl
    exact ⟨c, cs, hcs, by simp [Scan.isBlank, hspace, htab]⟩
  · obtain ⟨rest, hwrite⟩ := (Form.ofText s.toList).exists_write_eq_cons s.toList
    exact ⟨_, rest, hwrite, by cases (Form.ofText s.toList).quote <;> rfl⟩

lemma run_entry {e : Entry} (h : IsBare e.1) (ts : List Token) :
    run ⟨ts, .between⟩ (entryChars e.1 e.2) = some ⟨e.tokens.reverse ++ ts, .between⟩ := by
  obtain ⟨c, cs, hcs, hc⟩ := e.2.exists_chars_eq_cons
  obtain ⟨s, hrun, hends⟩ := exists_run_leaf e.2
    (.blank [' '] :: .equals :: .blank [' '] :: .word e.1.toList :: ts)
  have hname : run ⟨ts, .between⟩ e.1.toList = some ⟨ts, .word e.1.toList.reverse⟩ :=
    run_word h.1 h.2
  have hmiddle : run ⟨ts, .word e.1.toList.reverse⟩ [' ', '=', ' '] =
      some ⟨.equals :: .blank [' '] :: .word e.1.toList :: ts, .blank [' ']⟩ := by
    simp [run_cons, run_nil, step, isWordChar, start, punctuation?, Scan.isBlank]
  have hchars : entryChars e.1 e.2 = e.1.toList ++ ([' ', '=', ' '] ++ (e.2.chars ++ ['\n'])) := by
    simp [entryChars]
  rw [hchars, run_append, hname, Option.bind_some, run_append, hmiddle, Option.bind_some, hcs,
    List.cons_append, run_blank hc, ← List.cons_append, ← hcs, run_append]
  have hline := hends.run_newline []
  simp [hrun, hline, run_nil, Entry.tokens]

lemma run_entries {es : List Entry} (h : ∀ e ∈ es, IsBare e.1) (ts : List Token) :
    run ⟨ts, .between⟩ (es.flatMap fun e => entryChars e.1 e.2) =
      some ⟨(es.flatMap Entry.tokens).reverse ++ ts, .between⟩ := by
  induction es generalizing ts with
  | nil => rfl
  | cons e es ih =>
    rw [List.flatMap_cons, run_append, run_entry (h e List.mem_cons_self), Option.bind_some,
      ih fun e he => h e (List.mem_cons_of_mem _ he)]
    simp

lemma run_section {s : Section} (h : IsBare s.1) (hentries : ∀ e ∈ s.2, IsBare e.1)
    (ts : List Token) : run ⟨ts, .between⟩ (sectionChars s.1 s.2) =
      some ⟨s.tokens.reverse ++ ts, .between⟩ := by
  have hstart : run ⟨ts, .between⟩ ['\n', '['] =
      some ⟨.beginList :: .newline :: ts, .between⟩ := rfl
  have hend (us : List Token) : run ⟨us, .word s.1.toList.reverse⟩ [']', '\n'] =
      some ⟨.newline :: .endList :: .word s.1.toList :: us, .between⟩ := by
    simp [run_cons, run_nil, step, isWordChar, start, punctuation?]
  have hchars : sectionChars s.1 s.2 = ['\n', '['] ++ (s.1.toList ++ ([']', '\n'] ++
      s.2.flatMap fun e => entryChars e.1 e.2)) := by
    simp [sectionChars]
  rw [hchars, run_append, hstart, Option.bind_some, run_append, run_word h.1 h.2, Option.bind_some,
    run_append, hend, Option.bind_some, run_entries hentries]
  simp [Section.tokens]

lemma run_sections {ss : List Section} (h : ∀ s ∈ ss, IsBare s.1)
    (hentries : ∀ s ∈ ss, ∀ e ∈ s.2, IsBare e.1) (ts : List Token) :
    run ⟨ts, .between⟩ (ss.flatMap fun s => sectionChars s.1 s.2) =
      some ⟨(ss.flatMap Section.tokens).reverse ++ ts, .between⟩ := by
  induction ss generalizing ts with
  | nil => rfl
  | cons s ss ih =>
    have hsection := run_section (h s List.mem_cons_self) (hentries s List.mem_cons_self) ts
    rw [List.flatMap_cons, run_append, hsection, Option.bind_some,
      ih (fun s hs => h s (List.mem_cons_of_mem _ hs))
        (fun s hs => hentries s (List.mem_cons_of_mem _ hs))]
    simp

/-! ### Statements -/

def Entry.statement (e : Entry) : Statement := .assign [e.1] e.2.document

def Section.statements (s : Section) : List Statement :=
  .header [s.1] false :: s.2.map Entry.statement

namespace Reader

variable {ss : List Statement} {name : List String}

lemma run_append (r : Reader) (ts us : List Token) :
    r.run (ts ++ us) = (r.run ts).bind fun r => r.run us := by
  simp [run, List.foldlM_append, bind]

lemma run_cons (r : Reader) (t : Token) (ts : List Token) :
    r.run (t :: ts) = (r.step t).bind fun r => r.run ts := rfl

/-- A word, and the end of its line. -/
lemma run_scalar {cs : List Char} {v : Document} (h : scalar? cs = some v) :
    run ⟨ss, [], name, .value⟩ [.word cs, .newline] =
      some ⟨.assign name v :: ss, [], name, .line⟩ := by
  have hword : step ⟨ss, [], name, .value⟩ (.word cs) = some ⟨ss, [], name, .scalar cs⟩ := rfl
  have hline : step ⟨ss, [], name, .scalar cs⟩ .newline =
      some ⟨.assign name v :: ss, [], name, .line⟩ := by
    simp [step, giveScalar, h, give, afterValue, expecting]
  rw [run_cons, hword, Option.bind_some, run_cons, hline]
  rfl

/-- A value, and the end of its line. -/
lemma run_leaf (v : Leaf) : run ⟨ss, [], name, .value⟩ [v.token, .newline] =
    some ⟨.assign name v.document :: ss, [], name, .line⟩ := by
  match v with
  | .bool true => exact run_scalar rfl
  | .bool false => exact run_scalar rfl
  | .number n => exact run_scalar (scalar?_digits n)
  | .text s =>
    have hgiven : step ⟨ss, [], name, .value⟩ (Leaf.text s).token =
        some ⟨.assign name (.text (String.ofList s.toList)) :: ss, [], name, .lineEnd⟩ := rfl
    rw [run_cons, hgiven, String.ofList_toList]
    rfl

lemma namePart_bare {s : String} (h : IsBare s) (r : Reader) (site : Site) :
    r.namePart site [] (.word s.toList) = some (r.expecting (.nameEnd site [s])) := by
  rw [namePart, if_pos h.2, addPart, String.ofList_toList, if_pos (by decide)]

lemma run_entry {e : Entry} (h : IsBare e.1) : run ⟨ss, [], name, .line⟩ e.tokens =
    some ⟨e.statement :: ss, [], [e.1], .line⟩ := by
  have hname : run ⟨ss, [], name, .line⟩ [.word e.1.toList, .blank [' '], .equals, .blank [' ']] =
      some ⟨ss, [], [e.1], .value⟩ := by
    have hstep : step ⟨ss, [], name, .line⟩ (.word e.1.toList) =
        some ⟨ss, [], name, .nameEnd .line [e.1]⟩ := namePart_bare h _ .line
    rw [run_cons, hstep]
    rfl
  have htokens : e.tokens = [.word e.1.toList, .blank [' '], .equals, .blank [' ']] ++
      [e.2.token, .newline] := rfl
  rw [htokens, run_append, hname, Option.bind_some, run_leaf]
  rfl

lemma exists_run_entries {es : List Entry} (h : ∀ e ∈ es, IsBare e.1) (ss : List Statement)
    (name : List String) : ∃ name', run ⟨ss, [], name, .line⟩ (es.flatMap Entry.tokens) =
      some ⟨(es.map Entry.statement).reverse ++ ss, [], name', .line⟩ := by
  induction es generalizing ss name with
  | nil => exact ⟨name, rfl⟩
  | cons e es ih =>
    obtain ⟨name', hrun⟩ := ih (fun e he => h e (List.mem_cons_of_mem _ he)) (e.statement :: ss) [e.1]
    refine ⟨name', ?_⟩
    rw [List.flatMap_cons, run_append, run_entry (h e List.mem_cons_self), Option.bind_some, hrun]
    simp

lemma exists_run_section {s : Section} (h : IsBare s.1) (hentries : ∀ e ∈ s.2, IsBare e.1)
    (ss : List Statement) (name : List String) :
    ∃ name', run ⟨ss, [], name, .line⟩ s.tokens =
      some ⟨s.statements.reverse ++ ss, [], name', .line⟩ := by
  obtain ⟨name', hrun⟩ := exists_run_entries hentries (.header [s.1] false :: ss) name
  have hheader : run ⟨ss, [], name, .line⟩
      [.newline, .beginList, .word s.1.toList, .endList, .newline] =
        some ⟨.header [s.1] false :: ss, [], name, .line⟩ := by
    have hstart : run ⟨ss, [], name, .line⟩ [.newline, .beginList] =
        some ⟨ss, [], name, .header⟩ := rfl
    have hstep : step ⟨ss, [], name, .header⟩ (.word s.1.toList) =
        some ⟨ss, [], name, .nameEnd (.header false) [s.1]⟩ := namePart_bare h _ _
    have htokens : [Token.newline, .beginList, .word s.1.toList, .endList, .newline] =
        [.newline, .beginList] ++ [.word s.1.toList, .endList, .newline] := rfl
    rw [htokens, run_append, hstart, Option.bind_some, run_cons, hstep]
    rfl
  refine ⟨name', ?_⟩
  rw [Section.tokens, run_append, hheader, Option.bind_some, hrun]
  simp [Section.statements]

lemma exists_run_sections {sections : List Section} (h : ∀ s ∈ sections, IsBare s.1)
    (hentries : ∀ s ∈ sections, ∀ e ∈ s.2, IsBare e.1) (ss : List Statement)
    (name : List String) :
    ∃ name', run ⟨ss, [], name, .line⟩ (sections.flatMap Section.tokens) =
      some ⟨(sections.flatMap Section.statements).reverse ++ ss, [], name', .line⟩ := by
  induction sections generalizing ss name with
  | nil => exact ⟨name, rfl⟩
  | cons s sections ih =>
    obtain ⟨name', hsection⟩ :=
      exists_run_section (h s List.mem_cons_self) (hentries s List.mem_cons_self) ss name
    obtain ⟨name'', hrest⟩ := ih (fun s hs => h s (List.mem_cons_of_mem _ hs))
      (fun s hs => hentries s (List.mem_cons_of_mem _ hs)) (s.statements.reverse ++ ss) name'
    refine ⟨name'', ?_⟩
    rw [List.flatMap_cons, run_append, hsection, Option.bind_some, hrest]
    simp

end Reader

end CallWatch.Toml
