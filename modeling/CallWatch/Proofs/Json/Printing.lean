import CallWatch.Proofs.Json.Scanning

/-!
Printed JSON is read back.

The tree of a value is what its text says, literal by literal. Reading goes the way of printing
in three steps: the scan finds the tokens of the tree, the builder makes the tree from them, and
the document of the tree is that of the value. Values with binary fractions are left out.
-/

namespace CallWatch.Json

open CallWatch.Text

mutual

/-- The value has no binary fraction, and every whole number in it fits into 64 bits. -/
def IsWhole : Json → Prop
  | float _ => False
  | int n => NumberLiteral.Fits n
  | arr xs => ItemsWhole xs
  | obj fields => FieldsWhole fields
  | _ => True

def ItemsWhole : List Json → Prop
  | [] => True
  | v :: rest => IsWhole v ∧ ItemsWhole rest

def FieldsWhole : List (String × Json) → Prop
  | [] => True
  | (_, v) :: rest => IsWhole v ∧ FieldsWhole rest

end

mutual

/-- The document that a value stands for. -/
def document : Json → Document
  | null => .null
  | bool b => .bool b
  | int n => .int n
  | float _ => .other
  | str s => .text s
  | arr xs => .list (documentItems xs)
  | obj fields => .record (documentFields fields)

def documentItems : List Json → List Document
  | [] => []
  | v :: rest => document v :: documentItems rest

def documentFields : List (String × Json) → List (String × Document)
  | [] => []
  | (k, v) :: rest => (k, document v) :: documentFields rest

end

mutual

/-- The tree of the text of a whole value. -/
def tree : Json → Tree
  | null | float _ => .null
  | bool b => .bool b
  | int n => .number (.ofInt n)
  | str s => .string (.written s)
  | arr xs => .arr (itemsTrees xs)
  | obj fields => .obj (fieldsTrees fields)

def itemsTrees : List Json → List Tree
  | [] => []
  | v :: rest => tree v :: itemsTrees rest

def fieldsTrees : List (String × Json) → List (StringLiteral × Tree)
  | [] => []
  | (k, v) :: rest => (.written k, tree v) :: fieldsTrees rest

end

namespace Tree

mutual

def tokens : Tree → List Token
  | null => [.null]
  | bool b => [.bool b]
  | number n => [.number n]
  | string s => [.string s]
  | arr xs => .beginArr :: itemsTokens xs ++ [.endArr]
  | obj fields => .beginObj :: fieldsTokens fields ++ [.endObj]

def itemsTokens : List Tree → List Token
  | [] => []
  | [t] => tokens t
  | t :: rest => tokens t ++ .comma :: itemsTokens rest

def fieldsTokens : List (StringLiteral × Tree) → List Token
  | [] => []
  | [(k, t)] => .string k :: .colon :: tokens t
  | (k, t) :: rest => .string k :: .colon :: tokens t ++ .comma :: fieldsTokens rest

end

end Tree

/-! ### From the tree to the document -/

mutual

lemma toDocument_tree : (v : Json) → v.IsWhole → v.tree.toDocument = v.document
  | .null, _ => rfl
  | .bool _, _ => rfl
  | .int n, h => by
    rw [tree, Tree.toDocument, NumberLiteral.toDocument, NumberLiteral.value?_ofInt h, document]
  | .str s, _ => by
    rw [tree, Tree.toDocument, StringLiteral.text?_written, document]
  | .arr xs, h => by
    rw [tree, Tree.toDocument, itemDocuments_trees xs h, document]
  | .obj fields, h => by
    rw [tree, Tree.toDocument, fieldDocuments?_trees fields h, document]

lemma itemDocuments_trees : (xs : List Json) → ItemsWhole xs →
    Tree.itemDocuments (itemsTrees xs) = documentItems xs
  | [], _ => rfl
  | v :: rest, h => by
    rw [itemsTrees, Tree.itemDocuments, toDocument_tree v h.1, itemDocuments_trees rest h.2,
      documentItems]

lemma fieldDocuments?_trees : (fields : List (String × Json)) → FieldsWhole fields →
    Tree.fieldDocuments? (fieldsTrees fields) = some (documentFields fields)
  | [], _ => rfl
  | (k, v) :: rest, h => by
    rw [fieldsTrees, Tree.fieldDocuments?, StringLiteral.text?_written,
      fieldDocuments?_trees rest h.2, toDocument_tree v h.1, documentFields]

end

/-! ### From the tokens to the tree -/

namespace Tree

lemma Builder.run_append (b : Builder) (ts us : List Token) :
    b.run (ts ++ us) = (b.run ts).bind fun c => c.run us := by
  simp [Builder.run, List.foldlM_append, bind]

lemma Builder.run_cons (b : Builder) (t : Token) (ts : List Token) :
    b.run (t :: ts) = (b.step t).bind fun c => c.run ts := rfl

/-- A value may come next. -/
def Builder.Ready (b : Builder) : Prop := b.expect = .value ∨ b.expect = .itemOrEnd

lemma Builder.Ready.run_cons {b : Builder} (h : b.Ready) (t : Token) (ht : t ≠ .endArr)
    (ts : List Token) : b.run (t :: ts) = (b.value? t).bind fun c => c.run ts := by
  have hstep : b.step t = b.value? t := by
    unfold Builder.step
    rcases h with h | h
    · rw [h]
    · rw [h]
      cases t <;> first | rfl | exact absurd rfl ht
  rw [Builder.run_cons, hstep]

/-- A name may come next. -/
def Builder.Named (b : Builder) : Prop := b.expect = .name ∨ b.expect = .nameOrEnd

lemma Builder.Named.run_name {b : Builder} (h : b.Named) {done : List (StringLiteral × Tree)}
    {name : StringLiteral} {s : List Open} (hs : b.stack = .fields done name :: s)
    (k : StringLiteral) (ts : List Token) :
    b.run (.string k :: .colon :: ts) =
      Builder.run ⟨.fields done k :: s, .value, b.result⟩ ts := by
  have hstep : b.step (.string k) = some ⟨.fields done k :: s, .colon, b.result⟩ := by
    unfold Builder.step
    rcases h with h | h <;> simp [h, Builder.name?, hs]
  rw [Builder.run_cons, hstep, Option.bind_some, Builder.run_cons]
  rfl

/-- The end of a container is the end of a value. -/
lemma Builder.run_endArr (b : Builder) (xs : List Tree) :
    Builder.run ⟨.items xs :: b.stack, .separator, b.result⟩ [.endArr] =
      some (b.give (.arr xs.reverse)) := rfl

lemma Builder.run_endObj (b : Builder) (fs : List (StringLiteral × Tree)) (name : StringLiteral) :
    Builder.run ⟨.fields fs name :: b.stack, .separator, b.result⟩ [.endObj] =
      some (b.give (.obj fs.reverse)) := rfl

lemma Builder.run_comma_items (xs : List Tree) (s : List Open) (r : Option Tree)
    (ts : List Token) : Builder.run ⟨.items xs :: s, .separator, r⟩ (.comma :: ts) =
      Builder.run ⟨.items xs :: s, .value, r⟩ ts := rfl

lemma Builder.run_comma_fields (fs : List (StringLiteral × Tree)) (name : StringLiteral)
    (s : List Open) (r : Option Tree) (ts : List Token) :
    Builder.run ⟨.fields fs name :: s, .separator, r⟩ (.comma :: ts) =
      Builder.run ⟨.fields fs name :: s, .name, r⟩ ts := rfl

mutual

lemma run_tokens : (t : Tree) → (b : Builder) → b.Ready → b.run t.tokens = some (b.give t)
  | .null, b, hb => by rw [tokens, hb.run_cons .null nofun]; rfl
  | .bool v, b, hb => by rw [tokens, hb.run_cons (.bool v) nofun]; rfl
  | .number n, b, hb => by rw [tokens, hb.run_cons (.number n) nofun]; rfl
  | .string s, b, hb => by rw [tokens, hb.run_cons (.string s) nofun]; rfl
  | .arr [], b, hb => by
    rw [tokens, List.cons_append, hb.run_cons .beginArr nofun]
    rfl
  | .arr (x :: xs), b, hb => by
    have hitems := run_itemsTokens (x :: xs) nofun (b.push (.items []) .itemOrEnd) (.inr rfl) []
      b.stack rfl
    rw [tokens, List.cons_append, hb.run_cons .beginArr nofun, Builder.value?, Option.bind_some,
      Builder.run_append, hitems, Option.bind_some, List.append_nil]
    exact (b.run_endArr (x :: xs).reverse).trans (by rw [List.reverse_reverse])
  | .obj [], b, hb => by
    rw [tokens, List.cons_append, hb.run_cons .beginObj nofun]
    rfl
  | .obj (f :: fs), b, hb => by
    have hfields := run_fieldsTokens (f :: fs) nofun (b.push (.fields [] []) .nameOrEnd) (.inr rfl)
      [] [] b.stack rfl
    rw [tokens, List.cons_append, hb.run_cons .beginObj nofun, Builder.value?, Option.bind_some,
      Builder.run_append, hfields, Option.bind_some, List.append_nil]
    exact (b.run_endObj (f :: fs).reverse []).trans (by rw [List.reverse_reverse])

lemma run_itemsTokens : (xs : List Tree) → xs ≠ [] → (b : Builder) → b.Ready →
    (done : List Tree) → (s : List Open) → b.stack = .items done :: s →
      b.run (itemsTokens xs) = some ⟨.items (xs.reverse ++ done) :: s, .separator, b.result⟩
  | [], h, _, _, _, _, _ => absurd rfl h
  | [x], _, b, hb, done, s, hs => by
    rw [itemsTokens, run_tokens x b hb, Builder.give, hs]
    rfl
  | x :: y :: ys, _, b, hb, done, s, hs => by
    have hrest := run_itemsTokens (y :: ys) nofun ⟨.items (x :: done) :: s, .value, b.result⟩
      (.inl rfl) (x :: done) s rfl
    have htokens : itemsTokens (x :: y :: ys) = x.tokens ++ .comma :: itemsTokens (y :: ys) := rfl
    rw [htokens, Builder.run_append, run_tokens x b hb, Option.bind_some, Builder.give, hs,
      Builder.run_comma_items, hrest]
    simp

lemma run_fieldsTokens : (fs : List (StringLiteral × Tree)) → fs ≠ [] → (b : Builder) → b.Named →
    (done : List (StringLiteral × Tree)) → (name : StringLiteral) → (s : List Open) →
      b.stack = .fields done name :: s →
        b.run (fieldsTokens fs) = some ⟨.fields (fs.reverse ++ done) [] :: s, .separator, b.result⟩
  | [], h, _, _, _, _, _, _ => absurd rfl h
  | [(k, t)], _, b, hb, done, name, s, hs => by
    rw [fieldsTokens, hb.run_name hs, run_tokens t _ (.inl rfl)]
    rfl
  | (k, t) :: f :: fs, _, b, hb, done, name, s, hs => by
    have hrest := run_fieldsTokens (f :: fs) nofun ⟨.fields ((k, t) :: done) [] :: s, .name, b.result⟩
      (.inl rfl) ((k, t) :: done) [] s rfl
    have htokens : fieldsTokens ((k, t) :: f :: fs) =
        .string k :: .colon :: (t.tokens ++ .comma :: fieldsTokens (f :: fs)) := rfl
    rw [htokens, hb.run_name hs, Builder.run_append, run_tokens t _ (.inl rfl), Option.bind_some,
      Builder.give, Builder.run_comma_fields, hrest]
    simp

end

lemma ofTokens?_tokens (t : Tree) : ofTokens? t.tokens = some t := by
  rw [ofTokens?, run_tokens t .init (.inl rfl)]
  rfl

end Tree

/-! ### From the text to the tokens -/

open Scan

lemma run_name (depth : Nat) (k : String) (ts : List Token) (cs : List Char) :
    run ⟨ts, .between⟩ (newline depth ++ stringChars k ++ [':', ' '] ++ cs) =
      run ⟨.colon :: .string (.written k) :: ts, .between⟩ cs := by
  rw [List.append_assoc, List.append_assoc, run_append, (stands_between ts).run_newline,
    Option.bind_some, run_append, run_stringChars, Option.bind_some]
  rfl

mutual

lemma exists_run_prettyChars (depth : Nat) : (v : Json) → v.IsWhole → (ts : List Token) →
    ∃ s, run ⟨ts, .between⟩ (v.prettyChars depth) = some s ∧
      s.Stands (v.tree.tokens.reverse ++ ts)
  | .null, _, ts => ⟨_, rfl, stands_word rfl⟩
  | .bool true, _, ts => ⟨_, rfl, stands_word rfl⟩
  | .bool false, _, ts => ⟨_, rfl, stands_word rfl⟩
  | .int n, _, ts => exists_run_intDigits n
  | .str s, _, ts => ⟨_, run_stringChars s, stands_between _⟩
  | .arr [], _, ts => ⟨_, rfl, stands_between _⟩
  | .arr (x :: xs), h, ts => by
    obtain ⟨s, hrun, hs⟩ := exists_run_prettyItems (depth + 1) (x :: xs) nofun h (.beginArr :: ts)
    have hstart : step ⟨ts, .between⟩ '[' = some ⟨.beginArr :: ts, .between⟩ := rfl
    refine ⟨⟨(tree (.arr (x :: xs))).tokens.reverse ++ ts, .between⟩, ?_, stands_between _⟩
    rw [prettyChars, List.append_assoc, List.cons_append, Scan.run_cons, hstart, Option.bind_some,
      run_append, hrun, Option.bind_some, run_append, hs.run_newline, Option.bind_some]
    simp [run, step, start, isSpace, tree, Tree.tokens]
  | .obj [], _, ts => ⟨_, rfl, stands_between _⟩
  | .obj (f :: fs), h, ts => by
    obtain ⟨s, hrun, hs⟩ := exists_run_prettyFields (depth + 1) (f :: fs) nofun h (.beginObj :: ts)
    have hstart : step ⟨ts, .between⟩ '\x7b' = some ⟨.beginObj :: ts, .between⟩ := rfl
    refine ⟨⟨(tree (.obj (f :: fs))).tokens.reverse ++ ts, .between⟩, ?_, stands_between _⟩
    rw [prettyChars, List.append_assoc, List.cons_append, Scan.run_cons, hstart, Option.bind_some,
      run_append, hrun, Option.bind_some, run_append, hs.run_newline, Option.bind_some]
    simp [run, step, start, isSpace, tree, Tree.tokens]

lemma exists_run_prettyItems (depth : Nat) : (xs : List Json) → xs ≠ [] → ItemsWhole xs →
    (ts : List Token) → ∃ s, run ⟨ts, .between⟩ (prettyItems depth xs) = some s ∧
      s.Stands ((Tree.itemsTokens (itemsTrees xs)).reverse ++ ts)
  | [], h, _, _ => absurd rfl h
  | [v], _, h, ts => by
    obtain ⟨s, hrun, hs⟩ := exists_run_prettyChars depth v h.1 ts
    refine ⟨s, ?_, hs⟩
    rw [prettyItems, run_append, (stands_between ts).run_newline, Option.bind_some, hrun]
  | v :: w :: ws, _, h, ts => by
    obtain ⟨s, hrun, hs⟩ := exists_run_prettyChars depth v h.1 ts
    obtain ⟨s', hrun', hs'⟩ := exists_run_prettyItems depth (w :: ws) nofun h.2
      (.comma :: (v.tree.tokens.reverse ++ ts))
    have hchars : prettyItems depth (v :: w :: ws) =
        newline depth ++ (v.prettyChars depth ++ ',' :: prettyItems depth (w :: ws)) := by
      simp [prettyItems]
    refine ⟨s', ?_, ?_⟩
    · rw [hchars, run_append, (stands_between ts).run_newline, Option.bind_some, run_append, hrun,
        Option.bind_some, hs.run_cons rfl]
      exact hrun'
    · simpa [itemsTrees, Tree.itemsTokens] using hs'

lemma exists_run_prettyFields (depth : Nat) : (fs : List (String × Json)) → fs ≠ [] →
    FieldsWhole fs → (ts : List Token) → ∃ s, run ⟨ts, .between⟩ (prettyFields depth fs) = some s ∧
      s.Stands ((Tree.fieldsTokens (fieldsTrees fs)).reverse ++ ts)
  | [], h, _, _ => absurd rfl h
  | [(k, v)], _, h, ts => by
    obtain ⟨s, hrun, hs⟩ := exists_run_prettyChars depth v h.1 (.colon :: .string (.written k) :: ts)
    refine ⟨s, ?_, ?_⟩
    · rw [prettyFields, run_name, hrun]
    · simpa [fieldsTrees, Tree.fieldsTokens] using hs
  | (k, v) :: f :: fs, _, h, ts => by
    obtain ⟨s, hrun, hs⟩ := exists_run_prettyChars depth v h.1 (.colon :: .string (.written k) :: ts)
    obtain ⟨s', hrun', hs'⟩ := exists_run_prettyFields depth (f :: fs) nofun h.2
      (.comma :: (v.tree.tokens.reverse ++ .colon :: .string (.written k) :: ts))
    have hchars : prettyFields depth ((k, v) :: f :: fs) =
        newline depth ++ stringChars k ++ [':', ' '] ++
          (v.prettyChars depth ++ ',' :: prettyFields depth (f :: fs)) := by
      simp [prettyFields]
    refine ⟨s', ?_, ?_⟩
    · rw [hchars, run_name, run_append, hrun, Option.bind_some, hs.run_cons rfl]
      exact hrun'
    · simpa [fieldsTrees, Tree.fieldsTokens] using hs'

end

/-- A text is read as the document of a value if the scan finds the tokens of its tree. -/
lemma document?_of_stands {v : Json} (h : v.IsWhole) {text cs : List Char} {s : State}
    (hrun : run init text = some s) (hs : s.Stands v.tree.tokens.reverse)
    (hcs : cs.all isSpace = true) :
    document? (String.ofList text ++ String.ofList cs) = some v.document := by
  have htokens : tokens? (text ++ cs) = some v.tree.tokens := by
    rw [tokens?, run_append, hrun, Option.bind_some]
    cases cs with
    | nil =>
      have hnil : run s [] = some s := rfl
      simp [hnil, hs.finish]
    | cons c cs => simp [hs.run_spaces hcs, finish?]
  have htext : (String.ofList text ++ String.ofList cs).toList = text ++ cs := by simp
  rw [document?, htext, Tree.read?, htokens, Option.bind_some, Tree.ofTokens?_tokens,
    Option.map_some, toDocument_tree v h]

/-- **Printed JSON is read back.** The text of a value, perhaps with spaces behind it, is read as
the document that the value stands for. -/
theorem document?_pretty {v : Json} (h : v.IsWhole) {cs : List Char} (hcs : cs.all isSpace = true) :
    document? (v.pretty ++ String.ofList cs) = some v.document := by
  obtain ⟨s, hrun, hs⟩ := exists_run_prettyChars 0 v h []
  rw [List.append_nil] at hs
  exact document?_of_stands h hrun hs hcs

end CallWatch.Json
