import CallWatch.Name.Service
import CallWatch.Proofs.Text.ByteOrder
import CallWatch.Proofs.Text.Trimming
import CallWatch.Text.Bytes

/-!
The language of service names.

`Qualified` texts are made of segments, points and one colon, by the forms alone. A text is read
as a service name exactly when it is qualified once the blanks around it are cut off, and the name
is then the one that is written so (`parse_eq_ok_iff`): the place of the colon is determined by
the text, so names are the same, and are ordered, as their texts are.
-/

namespace CallWatch.ServiceName

open CallWatch.Text

/-- A letter or an underscore, and then letters, digits, underscores, hyphens and dollar signs. -/
inductive Segment : List Char → Prop
  | mk {c : Char} {cs : List Char} (first : isAlphabetic c = true ∨ c = '_')
    (rest : ∀ d ∈ cs, isAlphanumeric d = true ∨ d = '_' ∨ d = '-' ∨ d = '$') : Segment (c :: cs)

/-- One or more segments, with points between them. -/
inductive Path : List Char → Prop
  | one {p : List Char} (h : Segment p) : Path p
  | more {p ps : List Char} (h : Segment p) (hs : Path ps) : Path (p ++ '.' :: ps)

inductive Qualified : List Char → Prop
  | mk {i l : List Char} (hi : Path i) (hl : Segment l) : Qualified (i ++ ':' :: l)

/-! ### Segments and paths -/

lemma segment_iff {cs : List Char} : isSegment cs = true ↔ Segment cs := by
  constructor
  · intro h
    obtain _ | ⟨c, cs⟩ := cs
    · cases h
    · simp only [isSegment, isSegmentStart, isSegmentChar, Bool.and_eq_true, Bool.or_eq_true,
        decide_eq_true_eq, List.all_eq_true, or_assoc] at h
      exact .mk h.1 h.2
  · rintro ⟨hfirst, hrest⟩
    simp only [isSegment, isSegmentStart, isSegmentChar, Bool.and_eq_true, Bool.or_eq_true,
      decide_eq_true_eq, List.all_eq_true, or_assoc]
    exact ⟨hfirst, hrest⟩

lemma Segment.ne_nil {p : List Char} (h : Segment p) : p ≠ [] := by
  cases h
  exact List.cons_ne_nil _ _

lemma isSegmentChar_of_mem {p : List Char} (h : isSegment p = true) {c : Char} (hc : c ∈ p) :
    isSegmentChar c = true := by
  obtain _ | ⟨d, ds⟩ := p
  · cases hc
  · obtain ⟨hd, hds⟩ := Bool.and_eq_true_iff.mp h
    rcases List.mem_cons.mp hc with rfl | hc
    · simp only [isSegmentStart, isSegmentChar, isAlphanumeric, Bool.or_eq_true,
        decide_eq_true_eq] at hd ⊢
      tauto
    · exact List.all_eq_true.mp hds c hc

lemma Segment.not_mem_point {p : List Char} (h : Segment p) : '.' ∉ p := by
  intro hp
  have hpoint : isSegmentChar '.' = false := by decide +kernel
  have hchar := isSegmentChar_of_mem (segment_iff.mpr h) hp
  exact Bool.false_ne_true (hpoint.symm.trans hchar)

lemma Segment.not_mem_colon {p : List Char} (h : Segment p) : ':' ∉ p := by
  intro hp
  have hcolon : isSegmentChar ':' = false := by decide +kernel
  have hchar := isSegmentChar_of_mem (segment_iff.mpr h) hp
  exact Bool.false_ne_true (hcolon.symm.trans hchar)

lemma Path.not_mem_colon {i : List Char} (h : Path i) : ':' ∉ i := by
  induction h with
  | one h => exact h.not_mem_colon
  | more h _ ih =>
    rw [List.mem_append, List.mem_cons, not_or, not_or]
    exact ⟨h.not_mem_colon, by decide, ih⟩

lemma path_join {p : List Char} {ps : List (List Char)} (h : ∀ q ∈ p :: ps, Segment q) :
    Path (join '.' (p :: ps)) := by
  induction ps generalizing p with
  | nil => exact .one (h p List.mem_cons_self)
  | cons q ps ih =>
    exact .more (h p List.mem_cons_self) (ih fun r hr => h r (List.mem_cons_of_mem _ hr))

lemma Path.ne_nil {i : List Char} (h : Path i) : i ≠ [] := by
  cases h with
  | one h => exact h.ne_nil
  | more h _ => exact List.append_ne_nil_of_left_ne_nil h.ne_nil _

lemma Path.all_isSegment {i : List Char} (h : Path i) : ∀ q ∈ pieces '.' i, isSegment q = true := by
  induction h with
  | one h =>
    rw [pieces_of_not_mem h.not_mem_point]
    intro q hq
    exact List.mem_singleton.mp hq ▸ segment_iff.mpr h
  | more h _ ih =>
    rw [pieces_append_sep h.not_mem_point]
    intro q hq
    rcases List.mem_cons.mp hq with rfl | hq
    · exact segment_iff.mpr h
    · exact ih q hq

lemma path_iff {cs : List Char} : isInterface cs = true ↔ Path cs := by
  rw [isInterface, Bool.and_eq_true, List.all_eq_true, Bool.not_eq_true', List.isEmpty_eq_false_iff]
  constructor
  · rintro ⟨-, h⟩
    obtain ⟨p, ps, hp⟩ := pieces_eq_cons '.' cs
    rw [hp] at h
    have hpath := path_join fun q hq => segment_iff.mp (h q hq)
    rwa [← hp, join_pieces] at hpath
  · exact fun h => ⟨h.ne_nil, h.all_isSegment⟩

/-! ### The colon -/

/-- The colon is found in the texts that are qualified, where the interface ends. No interface has
a colon in it, so it is the first one, and no segment begins with one, so it is the only one that
is dropped. -/
lemma colonOf?_eq_some_iff {cs : List Char} {k : Nat} : colonOf? cs = some k ↔
    ∃ i l, cs = i ++ ':' :: l ∧ k = byteLength i ∧ Path i ∧ Segment l := by
  constructor
  · intro h
    obtain ⟨n, hn, h⟩ := Option.bind_eq_some_iff.mp h
    obtain ⟨i, l, rfl, -, rfl⟩ := eq_append_of_position? hn
    rw [splitBytes?_byteLength] at h
    obtain ⟨⟨hlength, hi, hl⟩, hk⟩ := Option.ite_none_right_eq_some.mp h
    have hdrop : (':' :: l).dropWhile (· = ':') = l.dropWhile (· = ':') := rfl
    rw [hdrop, byteLength, Nat.add_comm, Nat.add_right_cancel_iff] at hlength
    rw [hdrop, dropWhile_eq_self hlength] at hl
    exact ⟨i, l, rfl, (Option.some.inj hk).symm, path_iff.mp hi, segment_iff.mp hl⟩
  · rintro ⟨i, l, rfl, rfl, hi, hl⟩
    exact colonOf?_append hi.not_mem_colon (path_iff.mpr hi) (segment_iff.mpr hl)

lemma exists_colonOf?_iff {cs : List Char} : (∃ k, colonOf? cs = some k) ↔ Qualified cs := by
  constructor
  · rintro ⟨k, hk⟩
    obtain ⟨i, l, rfl, -, hi, hl⟩ := colonOf?_eq_some_iff.mp hk
    exact .mk hi hl
  · rintro ⟨hi, hl⟩
    exact ⟨_, colonOf?_eq_some_iff.mpr ⟨_, _, rfl, rfl, hi, hl⟩⟩

/-! ### Names and their texts -/

/-- The text of a name is its interface, a colon and its local name. -/
lemma parts (n : ServiceName) : n.text.toList = n.interface.toList ++ ':' :: n.localName.toList ∧
    n.colon = byteLength n.interface.toList ∧ Path n.interface.toList ∧
    Segment n.localName.toList := by
  obtain ⟨i, l, htext, hcolon, hi, hl⟩ := colonOf?_eq_some_iff.mp n.colon_ok
  have hinterface : n.interface.toList = i := by
    rw [interface, htext, hcolon, splitBytes?_byteLength]
    exact String.toList_ofList
  have hlocal : n.localName.toList = l := by
    have hbehind : byteLength i + ':'.utf8Size = byteLength (i ++ [':']) := by
      rw [byteLength_append]
      rfl
    rw [localName, htext, List.append_cons, hcolon, hbehind, splitBytes?_byteLength]
    exact String.toList_ofList
  rw [hinterface, hlocal]
  exact ⟨htext, hcolon, hi, hl⟩

lemma toList_text (n : ServiceName) :
    n.text.toList = n.interface.toList ++ ':' :: n.localName.toList := n.parts.1

lemma path_interface (n : ServiceName) : Path n.interface.toList := n.parts.2.2.1

lemma segment_localName (n : ServiceName) : Segment n.localName.toList := n.parts.2.2.2

lemma append_eq_text (n : ServiceName) : n.interface ++ ":" ++ n.localName = n.text := by
  rw [← String.toList_inj, toList_text, String.toList_append, String.toList_append,
    List.append_assoc]
  rfl

lemma colon_eq (n : ServiceName) : n.colon = (bytes n.interface).length :=
  n.parts.2.1.trans (byteLength_toList n.interface)

lemma splitBytes?_colon (n : ServiceName) :
    splitBytes? n.colon n.text.toList = some (n.interface.toList, ':' :: n.localName.toList) := by
  rw [n.parts.2.1, toList_text, splitBytes?_byteLength]

lemma text_ne (n : ServiceName) : n.text ≠ "" := by
  intro h
  have hlist := n.toList_text
  rw [h] at hlist
  exact List.append_ne_nil_of_right_ne_nil _ (List.cons_ne_nil _ _) hlist.symm

lemma text_inj {n m : ServiceName} : n.text = m.text ↔ n = m := by
  constructor
  · obtain ⟨t, k, hk⟩ := n
    obtain ⟨u, j, hj⟩ := m
    rintro (rfl : t = u)
    obtain rfl : k = j := Option.some.inj (hk.symm.trans hj)
    rfl
  · rintro rfl
    rfl

lemma qualified_iff {cs : List Char} : Qualified cs ↔ ∃ n : ServiceName, n.text.toList = cs := by
  rw [← exists_colonOf?_iff]
  constructor
  · rintro ⟨k, hk⟩
    exact ⟨⟨.ofList cs, k, by rwa [String.toList_ofList]⟩, String.toList_ofList⟩
  · rintro ⟨n, rfl⟩
    exact ⟨n.colon, n.colon_ok⟩

/-! ### Reading -/

lemma parse_of_blank {s : String} (h : trim s = "") :
    parse s = .error (.blank .service s.utf8ByteSize) := if_pos h

variable {s : String}

lemma parse_of_colon (hs : trim s ≠ "") {k : Nat} (h : colonOf? (trim s).toList = some k) :
    parse s = .ok ⟨trim s, k, h⟩ := by
  refine (if_neg hs).trans ?_
  split
  next j hj =>
    obtain rfl : k = j := Option.some.inj (h.symm.trans hj)
    rfl
  next hnone => cases h.symm.trans hnone

lemma parse_of_no_colon (hs : trim s ≠ "") (h : colonOf? (trim s).toList = none) :
    parse s = .error (.malformedService (trim s)) := by
  refine (if_neg hs).trans ?_
  split
  next j hj => cases h.symm.trans hj
  next => rfl

/-- **A text is read as the name that it is the text of.** -/
theorem parse_eq_ok_iff {n : ServiceName} : parse s = .ok n ↔ trim s = n.text := by
  constructor
  · intro h
    have hs : trim s ≠ "" := by
      intro hs
      rw [parse_of_blank hs] at h
      cases h
    cases hcolon : colonOf? (trim s).toList with
    | none =>
      rw [parse_of_no_colon hs hcolon] at h
      cases h
    | some k =>
      rw [parse_of_colon hs hcolon] at h
      exact congrArg ServiceName.text (Except.ok.inj h)
  · intro h
    have hcolon : colonOf? (trim s).toList = some n.colon := h ▸ n.colon_ok
    rw [parse_of_colon (h ▸ n.text_ne) hcolon]
    exact congrArg Except.ok (text_inj.mp h)

lemma parse_of_not_qualified (hs : trim s ≠ "") (h : ¬Qualified (trim s).toList) :
    parse s = .error (.malformedService (trim s)) := by
  refine parse_of_no_colon hs (Option.eq_none_iff_forall_ne_some.mpr fun k hk => h ?_)
  exact exists_colonOf?_iff.mp ⟨k, hk⟩

/-- What a text is read as: a name exactly if it is qualified without the blanks around it, or else
an error that tells what is wrong. The colon of a name parts its text at a whole character. -/
structure ReadExactly (s : String) : Prop where
  trimmed : Trimmed s.toList (trim s).toList
  blank : trim s = "" → parse s = .error (.blank .service (bytes s).length)
  accepted : trim s ≠ "" → ((∃ n, parse s = .ok n) ↔ Qualified (trim s).toList)
  refused : trim s ≠ "" → ¬Qualified (trim s).toList →
    parse s = .error (.malformedService (trim s))
  text : ∀ n, parse s = .ok n → n.text = trim s ∧ n.interface ++ ":" ++ n.localName = trim s
  onlyColon : ∀ n, parse s = .ok n → ':' ∉ n.interface.toList ∧ ':' ∉ n.localName.toList
  colon : ∀ n, parse s = .ok n → n.colon = (bytes n.interface).length ∧
    splitBytes? n.colon n.text.toList = some (n.interface.toList, ':' :: n.localName.toList)
  again : ∀ n, parse s = .ok n → parse n.text = .ok n

lemma readExactly (s : String) : ReadExactly s where
  trimmed := by
    rw [trim, String.toList_ofList]
    exact trimmed_trimChars s.toList
  blank := parse_of_blank
  accepted := by
    intro _
    constructor
    · rintro ⟨n, hn⟩
      exact qualified_iff.mpr ⟨n, congrArg String.toList (parse_eq_ok_iff.mp hn).symm⟩
    · intro h
      obtain ⟨n, hn⟩ := qualified_iff.mp h
      exact ⟨n, parse_eq_ok_iff.mpr (String.toList_inj.mp hn).symm⟩
  refused := parse_of_not_qualified
  text := by
    intro n hn
    have htext := (parse_eq_ok_iff.mp hn).symm
    exact ⟨htext, n.append_eq_text.trans htext⟩
  onlyColon := fun n _ => ⟨n.path_interface.not_mem_colon, n.segment_localName.not_mem_colon⟩
  colon := fun n _ => ⟨n.colon_eq, n.splitBytes?_colon⟩
  again := by
    intro n hn
    have htext := parse_eq_ok_iff.mp hn
    rw [parse_eq_ok_iff, ← htext, trim_trim]

/-- Names compare as the bytes of their texts. Comparing the places of the colons as well, when
the texts are the same, makes no difference. -/
structure ComparedAsTexts (a b : ServiceName) : Prop where
  same : a = b ↔ bytes a.text = bytes b.text
  ordered : a.le b = true ↔ bytes a.text ≤ bytes b.text
  colon : a.le b = true ↔ bytes a.text < bytes b.text ∨
    bytes a.text = bytes b.text ∧ (bytes a.interface).length ≤ (bytes b.interface).length

/-- The colons of equal texts are at the same place. -/
lemma le_iff {a b : ServiceName} : a.le b = true ↔ a.text < b.text ∨ a = b := by
  rw [le, Bool.or_eq_true, Bool.and_eq_true, decide_eq_true_eq, decide_eq_true_eq,
    decide_eq_true_eq, text_inj]
  constructor
  · rintro (h | ⟨h, -⟩)
    · exact .inl h
    · exact .inr h
  · rintro (h | rfl)
    · exact .inl h
    · exact .inr ⟨rfl, Nat.le_refl _⟩

lemma comparedAsTexts (a b : ServiceName) : ComparedAsTexts a b where
  same := by rw [bytes_inj, text_inj]
  ordered := by rw [le_iff, bytes_le_iff, le_iff_lt_or_eq, text_inj]
  colon := by
    rw [le_iff, bytes_lt_iff, bytes_inj, text_inj]
    constructor
    · rintro (h | rfl)
      · exact .inl h
      · exact .inr ⟨rfl, Nat.le_refl _⟩
    · rintro (h | ⟨rfl, -⟩)
      · exact .inl h
      · exact .inr rfl

/-- **Service names are read exactly by their grammar.** Every text is read as the name that it
writes, or refused with the right error, and a name is determined by its text and ordered by it. -/
theorem parse_exact :
    (∀ s, ReadExactly s) ∧ ∀ a b : ServiceName, ComparedAsTexts a b :=
  ⟨readExactly, comparedAsTexts⟩

end CallWatch.ServiceName
