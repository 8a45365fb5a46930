import CallWatch.Proofs.Json.Printing

/-!
Compact JSON is read back, as printed JSON is.
-/

namespace CallWatch.Json

open Scan

lemma run_compactName (k : String) (ts : List Token) (cs : List Char) :
    run ⟨ts, .between⟩ (stringChars k ++ ':' :: cs) =
      run ⟨.colon :: .string (.written k) :: ts, .between⟩ cs := by
  rw [run_append, run_stringChars, Option.bind_some]
  rfl

mutual

lemma exists_run_compactChars : (v : Json) → v.IsWhole → (ts : List Token) →
    ∃ s, run ⟨ts, .between⟩ v.compactChars = some s ∧ s.Stands (v.tree.tokens.reverse ++ ts)
  | .null, _, ts => ⟨_, rfl, stands_word rfl⟩
  | .bool true, _, ts => ⟨_, rfl, stands_word rfl⟩
  | .bool false, _, ts => ⟨_, rfl, stands_word rfl⟩
  | .int n, _, ts => exists_run_intDigits n
  | .str s, _, ts => ⟨_, run_stringChars s, stands_between _⟩
  | .arr [], _, ts => ⟨_, rfl, stands_between _⟩
  | .arr (x :: xs), h, ts => by
    obtain ⟨s, hrun, hs⟩ := exists_run_compactItems (x :: xs) nofun h (.beginArr :: ts)
    have hstart : step ⟨ts, .between⟩ '[' = some ⟨.beginArr :: ts, .between⟩ := rfl
    refine ⟨⟨(tree (.arr (x :: xs))).tokens.reverse ++ ts, .between⟩, ?_, stands_between _⟩
    rw [compactChars, List.cons_append, Scan.run_cons, hstart, Option.bind_some, run_append, hrun,
      Option.bind_some, hs.run_cons rfl]
    simp [run, start, isSpace, tree, Tree.tokens]
  | .obj [], _, ts => ⟨_, rfl, stands_between _⟩
  | .obj (f :: fs), h, ts => by
    obtain ⟨s, hrun, hs⟩ := exists_run_compactFields (f :: fs) nofun h (.beginObj :: ts)
    have hstart : step ⟨ts, .between⟩ '\x7b' = some ⟨.beginObj :: ts, .between⟩ := rfl
    refine ⟨⟨(tree (.obj (f :: fs))).tokens.reverse ++ ts, .between⟩, ?_, stands_between _⟩
    rw [compactChars, List.cons_append, Scan.run_cons, hstart, Option.bind_some, run_append, hrun,
      Option.bind_some, hs.run_cons rfl]
    simp [run, start, isSpace, tree, Tree.tokens]

lemma exists_run_compactItems : (xs : List Json) → xs ≠ [] → ItemsWhole xs → (ts : List Token) →
    ∃ s, run ⟨ts, .between⟩ (compactItems xs) = some s ∧
      s.Stands ((Tree.itemsTokens (itemsTrees xs)).reverse ++ ts)
  | [], h, _, _ => absurd rfl h
  | [v], _, h, ts => exists_run_compactChars v h.1 ts
  | v :: w :: ws, _, h, ts => by
    obtain ⟨s, hrun, hs⟩ := exists_run_compactChars v h.1 ts
    obtain ⟨s', hrun', hs'⟩ := exists_run_compactItems (w :: ws) nofun h.2
      (.comma :: (v.tree.tokens.reverse ++ ts))
    have hchars : compactItems (v :: w :: ws) =
        v.compactChars ++ ',' :: compactItems (w :: ws) := by
      simp [compactItems]
    refine ⟨s', ?_, ?_⟩
    · rw [hchars, run_append, hrun, Option.bind_some, hs.run_cons rfl]
      exact hrun'
    · simpa [itemsTrees, Tree.itemsTokens] using hs'

lemma exists_run_compactFields : (fs : List (String × Json)) → fs ≠ [] → FieldsWhole fs →
    (ts : List Token) → ∃ s, run ⟨ts, .between⟩ (compactFields fs) = some s ∧
      s.Stands ((Tree.fieldsTokens (fieldsTrees fs)).reverse ++ ts)
  | [], h, _, _ => absurd rfl h
  | [(k, v)], _, h, ts => by
    obtain ⟨s, hrun, hs⟩ := exists_run_compactChars v h.1 (.colon :: .string (.written k) :: ts)
    refine ⟨s, ?_, ?_⟩
    · rw [compactFields, run_compactName, hrun]
    · simpa [fieldsTrees, Tree.fieldsTokens] using hs
  | (k, v) :: f :: fs, _, h, ts => by
    obtain ⟨s, hrun, hs⟩ := exists_run_compactChars v h.1 (.colon :: .string (.written k) :: ts)
    obtain ⟨s', hrun', hs'⟩ := exists_run_compactFields (f :: fs) nofun h.2
      (.comma :: (v.tree.tokens.reverse ++ .colon :: .string (.written k) :: ts))
    have hchars : compactFields ((k, v) :: f :: fs) =
        stringChars k ++ ':' :: (v.compactChars ++ ',' :: compactFields (f :: fs)) := by
      simp [compactFields]
    refine ⟨s', ?_, ?_⟩
    · rw [hchars, run_compactName, run_append, hrun, Option.bind_some, hs.run_cons rfl]
      exact hrun'
    · simpa [fieldsTrees, Tree.fieldsTokens] using hs'

end

/-- **Compact JSON is read back.** -/
theorem document?_compact {v : Json} (h : v.IsWhole) : document? v.compact = some v.document := by
  obtain ⟨s, hrun, hs⟩ := exists_run_compactChars v h []
  rw [List.append_nil] at hs
  have hspace : [].all isSpace = true := rfl
  have hread := document?_of_stands h hrun hs hspace
  rwa [String.ofList_nil, String.append_empty] at hread

end CallWatch.Json
