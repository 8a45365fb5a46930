import CallWatch.Proofs.Text.Numerals
import CallWatch.Toml.Token

/-!
What the scan of a TOML text makes of a printed text.

In a block up to two quotes in a row may belong to the text, and which of them do shows only at
the character behind them; `Mode.held` is where the scan stands in the meantime. A printed text
is read back in each of the four forms: what is inside is read to the end (`Reads`), and then the
delimiter closes it.
-/

namespace CallWatch.Toml

open CallWatch.Text

namespace Scan

variable {ts : List Token} {q : Quote} {e : Extent} {n : Nat} {seen cs : List Char} {c : Char}

lemma run_nil (s : State) : run s [] = some s := rfl

lemma run_cons (s : State) (c : Char) (cs : List Char) :
    run s (c :: cs) = (step s c).bind fun t => run t cs := rfl

/-- Inside a text, after `n` quotes in a row that may belong to it. -/
def Mode.held (q : Quote) (e : Extent) (n : Nat) (seen : List Char) : Mode :=
  if n = 0 then .inside q e seen else .closing q n seen

/-- A text of one line holds no quote back. -/
def Bounded (e : Extent) (n : Nat) : Prop := n ≤ 2 ∧ (e = .single → n = 0)

lemma bounded_zero (e : Extent) : Bounded e 0 := ⟨Nat.zero_le _, fun _ => rfl⟩

lemma step_held (h : Bounded e n) (hc : c ≠ q.char) : step ⟨ts, .held q e n seen⟩ c =
    body ts q e (List.replicate n q.char ++ seen) c := by
  obtain ⟨hn, he⟩ := h
  by_cases hzero : n = 0
  · subst hzero
    simp [Mode.held, step, inside, hc]
  · have hblock : e = .block := by
      cases e with
      | single => exact absurd (he rfl) hzero
      | block => rfl
    have hfew : ¬3 ≤ n := by omega
    simp [Mode.held, step, closing, hc, hzero, hfew, hblock]

lemma step_held_quote (hn : n ≤ 2) : step ⟨ts, .held q .block n seen⟩ q.char =
    some ⟨ts, .held q .block (n + 1) seen⟩ := by
  by_cases hzero : n = 0
  · subst hzero
    simp [Mode.held, step, inside]
  · have hfew : n ≠ 4 := by omega
    simp [Mode.held, step, closing, hzero, hfew]

/-! ### Inside -/

/-- What is written behind `n` quotes is read as the characters `cs`. -/
def Reads (q : Quote) (e : Extent) (n : Nat) (written cs : List Char) : Prop :=
  ∀ ts seen, ∃ n' seen', run ⟨ts, .held q e n seen⟩ written = some ⟨ts, .held q e n' seen'⟩ ∧
    Bounded e n' ∧ List.replicate n' q.char ++ seen' =
      cs.reverse ++ (List.replicate n q.char ++ seen)

lemma reads_nil (h : Bounded e n) : Reads q e n [] [] :=
  fun _ seen => ⟨n, seen, rfl, h, rfl⟩

/-- One quote more in a row. -/
lemma Reads.quote {written : List Char} (hn : n < 2) (h : Reads q .block (n + 1) written cs) :
    Reads q .block n (q.char :: written) (q.char :: cs) := by
  intro ts seen
  obtain ⟨n', seen', hrun, hb, hseen⟩ := h ts seen
  refine ⟨n', seen', ?_, hb, ?_⟩
  · rw [run_cons, step_held_quote (by omega), Option.bind_some, hrun]
  · simp [hseen, List.replicate_succ]

/-- Something else than a quote, after which no quote is held back. -/
lemma Reads.append {front written : List Char}
    (hfront : ∀ ts seen, run ⟨ts, .held q e n seen⟩ front =
      some ⟨ts, .inside q e (c :: (List.replicate n q.char ++ seen))⟩)
    (h : Reads q e 0 written cs) : Reads q e n (front ++ written) (c :: cs) := by
  intro ts seen
  obtain ⟨n', seen', hrun, hb, hseen⟩ := h ts (c :: (List.replicate n q.char ++ seen))
  refine ⟨n', seen', ?_, hb, ?_⟩
  · rw [run_append, hfront, Option.bind_some]
    exact hrun
  · simp [hseen]

/-- A line break stands in a block as it is. -/
lemma run_break (h : Bounded .block n) : run ⟨ts, .held q .block n seen⟩ ['\n'] =
    some ⟨ts, .inside q .block ('\n' :: (List.replicate n q.char ++ seen))⟩ := by
  have hc : '\n' ≠ q.char := by cases q <;> decide
  rw [run_cons, step_held h hc]
  simp [body, run_nil]

lemma run_plain (h : Bounded e n) (hq : c ≠ q.char) (hslash : c = '\\' → q ≠ .basic)
    (hplain : isPlain c = true) : run ⟨ts, .held q e n seen⟩ [c] =
      some ⟨ts, .inside q e (c :: (List.replicate n q.char ++ seen))⟩ := by
  have hbreak : c ≠ '\n' ∧ c ≠ '\r' := by
    constructor <;> rintro rfl <;> exact absurd hplain (by decide)
  have hescape : ¬(c = '\\' ∧ q = .basic) := fun h => hslash h.1 h.2
  rw [run_cons, step_held h hq]
  simp [body, hescape, hbreak, hplain, run_nil]

/-- A backslash begins an escape. -/
lemma run_backslash (h : Bounded e n) (cs : List Char) :
    run ⟨ts, .held .basic e n seen⟩ ('\\' :: cs) =
      run ⟨ts, .escape e (List.replicate n '"' ++ seen)⟩ cs := by
  rw [run_cons, step_held h (by decide)]
  rfl

lemma run_escaped {d : Char} (hcode : codeDigits? d = none) (hd : escaped? d = some c) :
    run ⟨ts, .escape e seen⟩ [d] = some ⟨ts, .inside .basic e (c :: seen)⟩ := by
  simp [run_cons, run_nil, step, escape, hcode, hd]

/-- A character that is given by its number. -/
lemma run_hexQuad (hc : c.toNat < 65536) :
    run ⟨ts, .escape e seen⟩ ('u' :: Numeral.hexQuad true c.toNat) =
      some ⟨ts, .inside .basic e (c :: seen)⟩ := by
  have hdigit (k : Nat) := Numeral.hexValue?_hexChar true (k % 16) (Nat.mod_lt _ (by decide))
  have hvalue := Numeral.hexQuad_value hc
  have hvalid : c.toNat.isValidChar := c.valid
  have hstart : step ⟨ts, .escape e seen⟩ 'u' = some ⟨ts, .code e seen 4 0⟩ := rfl
  rw [run_cons, hstart, Option.bind_some]
  simp [run, step, code, Numeral.hexQuad, hdigit, hvalue, hvalid]

lemma run_escapeChar (h : Bounded e n) : run ⟨ts, .held .basic e n seen⟩ (Form.escapeChar c) =
    some ⟨ts, .inside .basic e (c :: (List.replicate n '"' ++ seen))⟩ := by
  unfold Form.escapeChar
  split_ifs with h1 h2 h3 h4 h5 h6 h7 h8
  · subst h1; exact (run_backslash h _).trans (run_escaped rfl rfl)
  · subst h2; exact (run_backslash h _).trans (run_escaped rfl rfl)
  · subst h3; exact (run_backslash h _).trans (run_escaped rfl rfl)
  · subst h4; exact (run_backslash h _).trans (run_escaped rfl rfl)
  · subst h5; exact (run_backslash h _).trans (run_escaped rfl rfl)
  · subst h6; exact (run_backslash h _).trans (run_escaped rfl rfl)
  · subst h7; exact (run_backslash h _).trans (run_escaped rfl rfl)
  · exact (run_backslash h _).trans (run_hexQuad (by omega))
  · have hplain : isPlain c = true := by
      simp only [isPlain, Bool.or_eq_true, Bool.and_eq_true, decide_eq_true_eq]
      omega
    exact run_plain h h1 (fun hs => absurd hs h2) hplain

/-- The inside of a basic text is read back. -/
lemma reads_escapeFrom (h : Bounded e n) : Reads .basic e n (Form.escapeFrom e n cs) cs := by
  induction cs generalizing n with
  | nil => exact reads_nil h
  | cons c cs ih =>
    rw [Form.escapeFrom]
    split_ifs with hquote hbreak
    · obtain ⟨rfl, rfl, hn⟩ := hquote
      exact Reads.quote hn (ih ⟨by omega, nofun⟩)
    · obtain ⟨rfl, rfl⟩ := hbreak
      exact Reads.append (fun _ _ => run_break h) (ih (bounded_zero _))
    · exact Reads.append (fun _ _ => run_escapeChar h) (ih (bounded_zero _))

/-! ### Literal texts -/

/-- A literal text has no controls; on a single line it has no quote and no line break, and in a
block no three quotes in a row. -/
lemma holds_iff {f : Form} (hf : f.quote = .literal) : f.holds cs = true ↔
    (∀ c ∈ cs, Form.isControl c = false) ∧ (f.extent = .single → '\x27' ∉ cs ∧ '\n' ∉ cs) ∧
      (f.extent = .block → Form.hasTriple '\x27' cs = false) := by
  obtain ⟨q, e⟩ := f
  obtain rfl : q = .literal := hf
  cases e <;> simp [Form.holds, Quote.char]

lemma hasTriple_tail {d : Char} (h : Form.hasTriple d (c :: cs) = false) :
    Form.hasTriple d cs = false := by
  match cs, h with
  | [], _ => rfl
  | [_], _ => rfl
  | a :: b :: cs, h =>
    rw [Form.hasTriple, Bool.or_eq_false_iff] at h
    exact h.2

lemma hasTriple_append {d : Char} {front : List Char}
    (h : Form.hasTriple d (front ++ cs) = false) : Form.hasTriple d cs = false := by
  induction front with
  | nil => exact h
  | cons c front ih => exact ih (hasTriple_tail h)

lemma isPlain_of_isControl (h : Form.isControl c = false) (hbreak : c ≠ '\n') :
    isPlain c = true := by
  simp only [Form.isControl, Bool.or_eq_false_iff, Bool.and_eq_false_iff, decide_eq_false_iff_not,
    not_not] at h
  simp only [isPlain, Bool.or_eq_true, Bool.and_eq_true, decide_eq_true_eq]
  by_cases htab : c = '\t'
  · exact Or.inl htab
  · simp only [htab, hbreak, or_false] at h
    omega

/-- What is literal is read as it stands. -/
lemma reads_literal (h : Bounded e n) (hcontrol : ∀ c ∈ cs, Form.isControl c = false)
    (hsingle : e = .single → '\x27' ∉ cs ∧ '\n' ∉ cs)
    (hblock : e = .block → Form.hasTriple '\x27' (List.replicate n '\x27' ++ cs) = false) :
    Reads .literal e n cs cs := by
  induction cs generalizing n with
  | nil => exact reads_nil h
  | cons c cs ih =>
    have hrest : ∀ d ∈ cs, Form.isControl d = false :=
      fun d hd => hcontrol d (List.mem_cons_of_mem _ hd)
    have hsingle' (he : e = .single) : '\x27' ∉ cs ∧ '\n' ∉ cs :=
      ⟨List.not_mem_of_not_mem_cons (hsingle he).1, List.not_mem_of_not_mem_cons (hsingle he).2⟩
    have hblock' (he : e = .block) : Form.hasTriple '\x27' cs = false :=
      hasTriple_tail (hasTriple_append (hblock he))
    by_cases hquote : c = '\x27'
    · subst hquote
      obtain rfl : e = .block := by
        cases e with
        | single => exact absurd List.mem_cons_self (hsingle rfl).1
        | block => rfl
      have hn : n < 2 := by
        have hle := h.1
        by_contra hge
        obtain rfl : n = 2 := by omega
        exact absurd (hblock rfl) (by simp [List.replicate_succ, Form.hasTriple])
      refine Reads.quote hn (ih ⟨by omega, nofun⟩ hrest hsingle' fun he => ?_)
      rw [List.replicate_succ', List.append_assoc]
      exact hblock he
    · by_cases hbreak : c = '\n'
      · subst hbreak
        obtain rfl : e = .block := by
          cases e with
          | single => exact absurd List.mem_cons_self (hsingle rfl).2
          | block => rfl
        exact Reads.append (fun _ _ => run_break h) (ih (bounded_zero _) hrest hsingle' hblock')
      · have hplain := isPlain_of_isControl (hcontrol c List.mem_cons_self) hbreak
        have hslash : c = '\\' → Quote.literal ≠ .basic := fun _ => by decide
        exact Reads.append (fun _ _ => run_plain h hquote hslash hplain)
          (ih (bounded_zero _) hrest hsingle' hblock')

/-! ### Delimiters -/

/-- The end of the line ends what is before it: these are the tokens, in reverse order. -/
def State.Ends (s : State) (ts : List Token) : Prop :=
  step s '\n' = some ⟨.newline :: ts, .between⟩

lemma State.Ends.run_newline {s : State} (h : s.Ends ts) (cs : List Char) :
    run s ('\n' :: cs) = run ⟨.newline :: ts, .between⟩ cs := by
  have hstep : step s '\n' = some ⟨.newline :: ts, .between⟩ := h
  rw [run_cons, hstep, Option.bind_some]

lemma ends_between (ts : List Token) : State.Ends ⟨ts, .between⟩ ts := rfl

/-- The delimiter closes a text, and takes the quotes that are held back into it. -/
lemma exists_run_delimiter (ts : List Token) (seen : List Char) (h : Bounded e n) :
    ∃ s, run ⟨ts, .held q e n seen⟩ (List.replicate e.quotes q.char) = some s ∧
      s.Ends (.text (List.replicate n q.char ++ seen).reverse (e = .single) :: ts) := by
  have hq : '\n' ≠ q.char := by cases q <;> decide
  obtain ⟨hn, he⟩ := h
  cases e with
  | single =>
    obtain rfl := he rfl
    refine ⟨_, ?_, ends_between _⟩
    simp [run_cons, run_nil, Extent.quotes, Mode.held, step, inside, close]
  | block =>
    obtain rfl | rfl | rfl : n = 0 ∨ n = 1 ∨ n = 2 := by omega
    · refine ⟨⟨ts, .closing q 3 seen⟩, ?_, ?_⟩
      · simp [run_cons, run_nil, Extent.quotes, Mode.held, step, inside, closing]
      · simp [State.Ends, step, closing, close, start, punctuation?, hq]
    · refine ⟨⟨ts, .closing q 4 seen⟩, ?_, ?_⟩
      · simp [run_cons, run_nil, Extent.quotes, Mode.held, step, closing]
      · simp [State.Ends, step, closing, close, start, punctuation?, hq]
    · refine ⟨_, ?_, ends_between _⟩
      simp [run_cons, run_nil, Extent.quotes, Mode.held, step, closing, close]

/-- Behind a delimiter the characters belong to the text from the first one on: it does not close
the text again, and it is no line break that a block leaves out. -/
def Opens (q : Quote) (e : Extent) (cs : List Char) : Prop :=
  ∀ c ∈ cs.head?, (e = .single → c ≠ q.char) ∧ (e = .block → c ≠ '\n' ∧ c ≠ '\r')

lemma quote_ne (q : Quote) : q.char ≠ '\n' ∧ q.char ≠ '\r' := by cases q <;> decide

lemma run_opening (hne : cs ≠ []) (h : Opens q e cs) :
    run ⟨ts, .between⟩ (List.replicate e.quotes q.char ++ cs) = run ⟨ts, .held q e 0 []⟩ cs := by
  have hstart : step ⟨ts, .between⟩ q.char = some ⟨ts, .opened q 1⟩ := by cases q <;> rfl
  cases cs with
  | nil => exact absurd rfl hne
  | cons c cs =>
    obtain ⟨hsingle, hblock⟩ := h c rfl
    cases e with
    | single =>
      have hc := hsingle rfl
      have hopened : step ⟨ts, .opened q 1⟩ c = step ⟨ts, .held q .single 0 []⟩ c := by
        simp [step, opened, Mode.held, hc]
      simp [Extent.quotes, run_cons, hstart, hopened]
    | block =>
      have hc := hblock rfl
      have hblank : run ⟨ts, .opened q 1⟩ [q.char, q.char] = some ⟨ts, .blockStart q false⟩ := by
        simp [run_cons, run_nil, step, opened]
      have hopened : step ⟨ts, .blockStart q false⟩ c = step ⟨ts, .held q .block 0 []⟩ c := by
        simp [step, blockStart, Mode.held, hc]
      have hquotes : List.replicate Extent.block.quotes q.char ++ c :: cs =
          q.char :: ([q.char, q.char] ++ c :: cs) := rfl
      rw [hquotes, run_cons, hstart, Option.bind_some, run_append, hblank, Option.bind_some,
        run_cons, hopened, run_cons]

lemma escapeChar_ne_nil : Form.escapeChar c ≠ [] := by
  unfold Form.escapeChar
  split_ifs <;> simp

lemma escapeFrom_ne_nil (h : cs ≠ []) : Form.escapeFrom e n cs ≠ [] := by
  cases cs with
  | nil => exact absurd rfl h
  | cons c cs =>
    rw [Form.escapeFrom]
    split_ifs <;> simp [escapeChar_ne_nil]

lemma opens_escapeChar : Opens .basic e (Form.escapeChar c) := by
  have hhead : ∀ d ∈ (Form.escapeChar c).head?, d ≠ '"' ∧ d ≠ '\n' ∧ d ≠ '\r' := by
    unfold Form.escapeChar
    split_ifs <;> simp_all
  exact fun d hd => ⟨fun _ => (hhead d hd).1, fun _ => (hhead d hd).2⟩

lemma opens_escapeFrom (h : e = .block → '\n' ∉ cs) :
    Opens .basic e (Form.escapeFrom e 0 cs) := by
  cases cs with
  | nil => exact nofun
  | cons c cs =>
    rw [Form.escapeFrom]
    split_ifs with hquote hbreak
    · obtain ⟨rfl, rfl, -⟩ := hquote
      intro d hd
      obtain rfl := Option.some.inj hd
      exact ⟨nofun, fun _ => by decide⟩
    · obtain ⟨rfl, rfl⟩ := hbreak
      exact absurd List.mem_cons_self (h rfl)
    · intro d hd
      rw [List.head?_append_of_ne_nil _ escapeChar_ne_nil] at hd
      exact opens_escapeChar d hd

lemma opens_literal (hcontrol : ∀ c ∈ cs, Form.isControl c = false)
    (hsingle : e = .single → '\x27' ∉ cs) (hblock : e = .block → '\n' ∉ cs) :
    Opens .literal e cs := by
  intro c hc
  have hmem := List.mem_of_mem_head? hc
  refine ⟨fun he hq => ?_, fun he => ⟨fun hb => hblock he (hb ▸ hmem), ?_⟩⟩
  · obtain rfl : c = '\x27' := hq
    exact hsingle he hmem
  rintro rfl
  exact absurd (hcontrol _ hmem) (by decide)

lemma Opens.append {rest : List Char} (h : Opens q e cs) (hne : cs ≠ []) :
    Opens q e (cs ++ rest) := by
  intro c hc
  rw [List.head?_append_of_ne_nil _ hne] at hc
  exact h c hc

lemma Opens.append_delimiter (h : Opens q .block cs) :
    Opens q .block (cs ++ List.replicate Extent.block.quotes q.char) := by
  cases cs with
  | nil =>
    intro c hc
    obtain rfl := Option.some.inj hc
    exact ⟨nofun, fun _ => quote_ne q⟩
  | cons c cs => exact h

/-! ### Texts -/

/-- The form can hold the text: a basic one any text, a literal one only as it is. -/
def Suits (f : Form) (cs : List Char) : Prop := f.quote = .basic ∨ f.holds cs = true

lemma suits_ofText (cs : List Char) : Suits (Form.ofText cs) cs := by
  unfold Form.ofText
  cases hf : Form.all.find? (·.holds cs) with
  | none => exact Or.inl rfl
  | some f =>
    have hholds := List.find?_some hf
    exact Or.inr hholds

lemma reads_inside {f : Form} (h : Suits f cs) : Reads f.quote f.extent 0 (f.inside cs) cs := by
  obtain ⟨q, e⟩ := f
  cases q with
  | basic => exact reads_escapeFrom (bounded_zero e)
  | literal =>
    obtain ⟨hcontrol, hsingle, hblock⟩ := (holds_iff rfl).mp (h.resolve_left nofun)
    exact reads_literal (bounded_zero e) hcontrol hsingle hblock

lemma inside_ne_nil {f : Form} (h : cs ≠ []) : f.inside cs ≠ [] := by
  obtain ⟨q, e⟩ := f
  cases q with
  | basic => exact escapeFrom_ne_nil h
  | literal => exact h

lemma opens_inside {f : Form} (h : Suits f cs) (hbreak : f.extent = .block → '\n' ∉ cs) :
    Opens f.quote f.extent (f.inside cs) := by
  obtain ⟨q, e⟩ := f
  cases q with
  | basic => exact opens_escapeFrom hbreak
  | literal =>
    obtain ⟨hcontrol, hsingle, -⟩ := (holds_iff rfl).mp (h.resolve_left nofun)
    exact opens_literal hcontrol (fun he => (hsingle he).1) hbreak

/-- A block that begins with a line of its own. -/
lemma run_lead : run ⟨ts, .between⟩ (List.replicate Extent.block.quotes q.char ++ ['\n']) =
    some ⟨ts, .held q .block 0 []⟩ := by
  cases q <;> rfl

lemma run_empty : run ⟨ts, .between⟩ [q.char, q.char] = some ⟨ts, .opened q 2⟩ := by
  cases q <;> rfl

lemma ends_empty : State.Ends ⟨ts, .opened q 2⟩ (.text [] true :: ts) := by
  have hq : '\n' ≠ q.char := by cases q <;> decide
  simp [State.Ends, step, opened, start, punctuation?, hq]

/-- What is written is read to the end, and then the delimiter. -/
lemma exists_run_closed {written : List Char} (h : Reads q e 0 written cs) :
    ∃ s, run ⟨ts, .held q e 0 []⟩ (written ++ List.replicate e.quotes q.char) = some s ∧
      s.Ends (.text cs (e = .single) :: ts) := by
  obtain ⟨n, seen, hrun, hbounded, hseen⟩ := h ts []
  obtain ⟨s, hclose, hends⟩ := exists_run_delimiter ts seen hbounded
  refine ⟨s, ?_, ?_⟩
  · rw [run_append, hrun, Option.bind_some, hclose]
  · simpa [hseen] using hends

/-- A text has been read in its form, at the latest at the end of the line. -/
lemma exists_run_write {f : Form} (h : Suits f cs) :
    ∃ s, run ⟨ts, .between⟩ (f.write cs) = some s ∧
      s.Ends (.text cs (f.extent = .single) :: ts) := by
  have hreads := reads_inside h
  have hopens := opens_inside h
  have hnonempty : cs ≠ [] → f.inside cs ≠ [] := inside_ne_nil
  obtain ⟨q, e⟩ := f
  cases e with
  | single =>
    by_cases hempty : cs = []
    · subst hempty
      have hwrite : Form.write ⟨q, .single⟩ [] = [q.char, q.char] := by cases q <;> rfl
      exact ⟨_, hwrite ▸ run_empty, ends_empty⟩
    · have hwrite : Form.write ⟨q, .single⟩ cs = List.replicate Extent.single.quotes q.char ++
          (Form.inside ⟨q, .single⟩ cs ++ List.replicate Extent.single.quotes q.char) := by
        simp [Form.write, Form.delimiter]
      have hhead : Opens q .single (Form.inside ⟨q, .single⟩ cs ++
          List.replicate Extent.single.quotes q.char) := (hopens nofun).append (hnonempty hempty)
      rw [hwrite, run_opening (by simp [Extent.quotes]) hhead]
      exact exists_run_closed hreads
  | block =>
    by_cases hlead : '\n' ∈ cs
    · have hwrite : Form.write ⟨q, .block⟩ cs =
          (List.replicate Extent.block.quotes q.char ++ ['\n']) ++
            (Form.inside ⟨q, .block⟩ cs ++ List.replicate Extent.block.quotes q.char) := by
        simp [Form.write, Form.delimiter, hlead]
      rw [hwrite, run_append, run_lead, Option.bind_some]
      exact exists_run_closed hreads
    · have hwrite : Form.write ⟨q, .block⟩ cs = List.replicate Extent.block.quotes q.char ++
          (Form.inside ⟨q, .block⟩ cs ++ List.replicate Extent.block.quotes q.char) := by
        simp [Form.write, Form.delimiter, hlead]
      have hhead := Opens.append_delimiter (hopens fun _ => hlead)
      rw [hwrite, run_opening (by simp [Extent.quotes]) hhead]
      exact exists_run_closed hreads

end Scan

end CallWatch.Toml
