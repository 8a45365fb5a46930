import CallWatch.Proofs.Records
import CallWatch.Proofs.Toml.Printing

/-!
A printed page of TOML is read back.

A page is some entries and then sections, each with a header and entries of its own. Its
statements build the record of the entries and the sections one after the other, since no name
is given twice at one place: what is new comes last.
-/

namespace CallWatch.Toml

open CallWatch.Text

/-! ### Tables -/

def Entry.node (e : Entry) : String × Node := (e.1, .value e.2.document)

def Section.node (s : Section) : String × Node := (s.1, .table .headed (s.2.map Entry.node))

namespace Sheet

variable {fs gs : Fields} {e : Entry} {es : List Entry} {k : String}

lemma assign_fresh {v : Document} (h : k ∉ Record.keys fs) :
    fs.assign v [k] = some (fs ++ [(k, .value v)]) := by
  rw [Fields.assign, Record.get?_of_not_mem h]
  exact congrArg some (Record.insert_of_not_mem h)

lemma foldlM_cons (s : Sheet) (st : Statement) (ss : List Statement) :
    (st :: ss).foldlM step s = (s.step st).bind fun s => ss.foldlM step s := rfl

/-- After the first of several different names the others are still new. -/
lemma fresh_append {α : Type} {x : String × α} {xs : List (String × α)} {f : String × Node}
    (hf : f.1 = x.1) (hfresh : ∀ y ∈ x :: xs, y.1 ∉ Record.keys fs)
    (h : ((x :: xs).map Prod.fst).Nodup) : ∀ y ∈ xs, y.1 ∉ Record.keys (fs ++ [f]) := by
  intro y hy
  rw [List.map_cons, List.nodup_cons] at h
  have hkeys : Record.keys (fs ++ [f]) = Record.keys fs ++ [x.1] := by simp [Record.keys, hf]
  rw [hkeys, List.mem_append, List.mem_singleton]
  rintro (hmem | heq)
  · exact hfresh y (List.mem_cons_of_mem _ hy) hmem
  · exact h.1 (heq ▸ List.mem_map_of_mem hy)

/-- Entries before the first header. -/
lemma foldlM_entries (hfresh : ∀ e ∈ es, e.1 ∉ Record.keys fs) (h : (es.map Prod.fst).Nodup) :
    (es.map Entry.statement).foldlM step ⟨fs, []⟩ = some ⟨fs ++ es.map Entry.node, []⟩ := by
  induction es generalizing fs with
  | nil => simp
  | cons e es ih =>
    have hrest := fresh_append (x := e) (f := e.node) rfl hfresh h
    rw [List.map_cons, List.nodup_cons] at h
    have hstep : step ⟨fs, []⟩ e.statement = some ⟨fs ++ [e.node], []⟩ := by
      rw [Entry.statement, step, Fields.assignAt, assign_fresh (hfresh e List.mem_cons_self)]
      rfl
    rw [List.map_cons, foldlM_cons, hstep, Option.bind_some, ih hrest h.2]
    simp

/-- Entries in the table of the latest header. -/
lemma foldlM_section_entries (hk : k ∉ Record.keys fs) (hfresh : ∀ e ∈ es, e.1 ∉ Record.keys gs)
    (h : (es.map Prod.fst).Nodup) :
    (es.map Entry.statement).foldlM step ⟨fs ++ [(k, .table .headed gs)], [k]⟩ =
      some ⟨fs ++ [(k, .table .headed (gs ++ es.map Entry.node))], [k]⟩ := by
  induction es generalizing gs with
  | nil => simp
  | cons e es ih =>
    have hrest := fresh_append (x := e) (f := e.node) rfl hfresh h
    rw [List.map_cons, List.nodup_cons] at h
    have hstep : step ⟨fs ++ [(k, .table .headed gs)], [k]⟩ e.statement =
        some ⟨fs ++ [(k, .table .headed (gs ++ [e.node]))], [k]⟩ := by
      have hassign : Fields.assign e.2.document [e.1] gs = some (gs ++ [e.node]) :=
        assign_fresh (hfresh e List.mem_cons_self)
      simp [Entry.statement, step, Fields.assignAt, Record.get?_append_self hk, hassign,
        Record.insert_append_self hk]
    rw [List.map_cons, foldlM_cons, hstep, Option.bind_some, ih hrest h.2]
    simp

lemma foldlM_section {s : Section} (path : List String) (hk : s.1 ∉ Record.keys fs)
    (h : (s.2.map Prod.fst).Nodup) :
    s.statements.foldlM step ⟨fs, path⟩ = some ⟨fs ++ [s.node], [s.1]⟩ := by
  have hstep : step ⟨fs, path⟩ (.header [s.1] false) =
      some ⟨fs ++ [(s.1, .table .headed [])], [s.1]⟩ := by
    simp [step, Fields.head, Record.get?_of_not_mem hk, Fields.headTable?,
      Record.insert_of_not_mem hk]
  have hentries : (s.2.map Entry.statement).foldlM step ⟨fs ++ [(s.1, .table .headed [])], [s.1]⟩ =
      some ⟨fs ++ [s.node], [s.1]⟩ :=
    foldlM_section_entries hk (fun _ _ => List.not_mem_nil) h
  rw [Section.statements, foldlM_cons, hstep, Option.bind_some, hentries]

lemma exists_foldlM_sections {ss : List Section} (path : List String)
    (hfresh : ∀ s ∈ ss, s.1 ∉ Record.keys fs) (h : (ss.map Prod.fst).Nodup)
    (hentries : ∀ s ∈ ss, (s.2.map Prod.fst).Nodup) :
    ∃ path', (ss.flatMap Section.statements).foldlM step ⟨fs, path⟩ =
      some ⟨fs ++ ss.map Section.node, path'⟩ := by
  induction ss generalizing fs path with
  | nil => exact ⟨path, by simp⟩
  | cons s ss ih =>
    have hrest := fresh_append (x := s) (f := s.node) rfl hfresh h
    rw [List.map_cons, List.nodup_cons] at h
    have hsection := foldlM_section path (hfresh s List.mem_cons_self)
      (hentries s List.mem_cons_self)
    obtain ⟨path', hfold⟩ := ih [s.1] hrest h.2
      fun t ht => hentries t (List.mem_cons_of_mem _ ht)
    refine ⟨path', ?_⟩
    rw [List.flatMap_cons, List.foldlM_append, hsection]
    refine hfold.trans ?_
    simp

end Sheet

lemma fieldDocuments_eq_map (fs : Fields) :
    fieldDocuments fs = fs.map fun f => (f.1, f.2.toDocument) := by
  induction fs with
  | nil => rfl
  | cons f fs ih => rw [fieldDocuments, ih, List.map_cons]

/-! ### Pages -/

/-- Entries, and then sections. -/
structure Page where
  top : List Entry
  sections : List Section

namespace Page

/-- The names at the top, and those in each section. -/
def names (p : Page) : List (List String) :=
  (p.top.map Prod.fst ++ p.sections.map Prod.fst) :: p.sections.map fun s => s.2.map Prod.fst

/-- Names need no quotes, and no name is given twice at one place. -/
structure WellNamed (p : Page) : Prop where
  bare : ∀ ks ∈ p.names, ∀ k ∈ ks, IsBare k
  nodup : ∀ ks ∈ p.names, ks.Nodup

namespace WellNamed

variable {p : Page}

lemma top_bare (h : p.WellNamed) : ∀ e ∈ p.top, IsBare e.1 :=
  fun _ he => h.bare _ List.mem_cons_self _ (List.mem_append_left _ (List.mem_map_of_mem he))

lemma section_bare (h : p.WellNamed) : ∀ s ∈ p.sections, IsBare s.1 :=
  fun _ hs => h.bare _ List.mem_cons_self _ (List.mem_append_right _ (List.mem_map_of_mem hs))

lemma entry_bare (h : p.WellNamed) : ∀ s ∈ p.sections, ∀ e ∈ s.2, IsBare e.1 :=
  fun _ hs _ he =>
    h.bare _ (List.mem_cons_of_mem _ (List.mem_map_of_mem hs)) _ (List.mem_map_of_mem he)

lemma entry_nodup (h : p.WellNamed) : ∀ s ∈ p.sections, (s.2.map Prod.fst).Nodup :=
  fun _ hs => h.nodup _ (List.mem_cons_of_mem _ (List.mem_map_of_mem hs))

end WellNamed

def chars (p : Page) : List Char :=
  (p.top.flatMap fun e => entryChars e.1 e.2) ++ p.sections.flatMap fun s => sectionChars s.1 s.2

def tokens (p : Page) : List Token :=
  p.top.flatMap Entry.tokens ++ p.sections.flatMap Section.tokens

def statements (p : Page) : List Statement :=
  p.top.map Entry.statement ++ p.sections.flatMap Section.statements

def entryDocuments (es : List Entry) : List (String × Document) :=
  es.map fun e => (e.1, e.2.document)

/-- The record of the entries and of the records of the sections. -/
def document (p : Page) : Document :=
  .record (entryDocuments p.top ++ p.sections.map fun s => (s.1, .record (entryDocuments s.2)))

variable {p : Page}

/-- A page begins with a name or an empty line. -/
lemma dropMark_chars (h : p.WellNamed) : dropMark p.chars = p.chars := by
  have hhead : p.chars.head? ≠ some '\ufeff' := by
    obtain ⟨top, sections⟩ := p
    match top, sections with
    | [], [] => exact nofun
    | [], _ :: _ => exact fun hmark => absurd (Option.some.inj hmark) (by decide)
    | e :: _, _ =>
      obtain ⟨hne, hall⟩ := h.top_bare e List.mem_cons_self
      intro hmark
      have hname : e.1.toList.head? = some '\ufeff' := by
        rw [← hmark]
        simp [chars, entryChars, List.head?_append_of_ne_nil _ hne]
      have hbare := List.all_eq_true.mp hall _ (List.mem_of_mem_head? hname)
      exact absurd hbare (by decide)
  unfold dropMark
  split
  · rename_i hchars
    exact absurd (by rw [hchars]; rfl) hhead
  · rfl

lemma tokens?_chars (h : p.WellNamed) : tokens? p.chars = some p.tokens := by
  have hrun : Scan.run Scan.init p.chars = some ⟨p.tokens.reverse, .between⟩ := by
    rw [chars, Scan.run_append, Scan.init, run_entries h.top_bare, Option.bind_some,
      run_sections h.section_bare h.entry_bare]
    simp [tokens]
  rw [tokens?, dropMark_chars h, hrun, Option.bind_some, Scan.finish?, List.reverse_reverse]

lemma statements?_chars (h : p.WellNamed) : statements? p.chars = some p.statements := by
  obtain ⟨name, htop⟩ := Reader.exists_run_entries h.top_bare [] []
  obtain ⟨name', hsections⟩ := Reader.exists_run_sections h.section_bare h.entry_bare
    ((p.top.map Entry.statement).reverse ++ []) name
  rw [statements?, tokens?_chars h, Option.bind_some, tokens, Reader.run_append, Reader.init, htop,
    Option.bind_some, hsections, Option.bind_some, Reader.finish?]
  simp [statements]

lemma fieldDocuments_entries (es : List Entry) :
    fieldDocuments (es.map Entry.node) = entryDocuments es := by
  rw [fieldDocuments_eq_map, List.map_map]
  rfl

lemma toDocument_node (s : Section) : s.node.2.toDocument = .record (entryDocuments s.2) := by
  rw [Section.node, Node.toDocument, fieldDocuments_entries]

lemma ofStatements?_statements (h : p.WellNamed) :
    ofStatements? p.statements = some p.document := by
  obtain ⟨htop, hsections, hdisjoint⟩ := List.nodup_append.mp (h.nodup _ List.mem_cons_self)
  have hfresh : ∀ s ∈ p.sections, s.1 ∉ Record.keys (p.top.map Entry.node) := by
    intro s hs hmem
    have hname : s.1 ∈ p.top.map Prod.fst := by simpa [Record.keys, Entry.node] using hmem
    exact hdisjoint s.1 hname s.1 (List.mem_map_of_mem hs) rfl
  have hentries : (p.top.map Entry.statement).foldlM Sheet.step ⟨[], []⟩ =
      some ⟨p.top.map Entry.node, []⟩ :=
    Sheet.foldlM_entries (fun _ _ => List.not_mem_nil) htop
  obtain ⟨path, hfold⟩ := Sheet.exists_foldlM_sections [] hfresh hsections h.entry_nodup
  have hrun : p.statements.foldlM Sheet.step ⟨[], []⟩ =
      some ⟨p.top.map Entry.node ++ p.sections.map Section.node, path⟩ := by
    rw [statements, List.foldlM_append, hentries]
    exact hfold
  rw [ofStatements?, hrun, Option.map_some, Fields.toDocument, fieldDocuments_eq_map,
    List.map_append, ← fieldDocuments_eq_map, fieldDocuments_entries, List.map_map, document]
  have hrecords : (fun f : String × Node => (f.1, f.2.toDocument)) ∘ Section.node =
      fun s : Section => (s.1, .record (entryDocuments s.2)) := by
    ext1 s
    exact congrArg (Prod.mk s.1) (toDocument_node s)
  rw [hrecords]

/-- **A printed page is read back.** -/
theorem document?_chars (h : p.WellNamed) :
    document? (String.ofList p.chars) = some p.document := by
  rw [document?, String.toList_ofList, statements?_chars h, Option.bind_some,
    ofStatements?_statements h]

end Page

end CallWatch.Toml
