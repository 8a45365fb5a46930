import CallWatch.Text.Bytes
import Mathlib.Data.List.Lex
import Mathlib.Data.String.Basic
import Mathlib.Tactic.Common
import Mathlib.Tactic.Lemma
import Mathlib.Tactic.SplitIfs

/-!
The bytes of a text, and their order.

Texts are compared character by character. UTF-8 is made so that comparing the bytes gives the
same: of two characters the greater one has the greater bytes, whatever follows them
(`encode_lt_encode`), so the bytes of texts are ordered as the texts are (`bytes_le_iff`).
-/

namespace CallWatch.Text

/-- The bytes of the UTF-8 form. -/
def bytes (s : String) : List UInt8 := s.toByteArray.data.toList

lemma bytes_eq (s : String) : bytes s = s.toList.flatMap String.utf8EncodeChar := by
  rw [bytes, ← String.utf8Encode_toList, List.utf8Encode, List.toList_data_toByteArray]

lemma byteLength_toList (s : String) : byteLength s.toList = s.utf8ByteSize := by
  have hlength : ∀ cs : List Char,
      (cs.flatMap String.utf8EncodeChar).length = byteLength cs := by
    intro cs
    induction cs with
    | nil => rfl
    | cons c cs ih =>
      rw [List.flatMap_cons, List.length_append, String.length_utf8EncodeChar, ih, byteLength]
  rw [← hlength, ← bytes_eq]
  rfl

/-! ### Order -/

lemma ofNat_lt_ofNat {m n : Nat} (hm : m < 256) (hn : n < 256) :
    UInt8.ofNat m < UInt8.ofNat n ↔ m < n := by
  rw [UInt8.lt_iff_toNat_lt, UInt8.toNat_ofNat_of_lt' hm, UInt8.toNat_ofNat_of_lt' hn]

lemma ofNat_eq_ofNat {m n : Nat} (hm : m < 256) (hn : n < 256) :
    UInt8.ofNat m = UInt8.ofNat n ↔ m = n := by
  rw [← UInt8.toNat_inj, UInt8.toNat_ofNat_of_lt' hm, UInt8.toNat_ofNat_of_lt' hn]

/-- A longer form begins with a greater byte, and forms of one length are the code points written
to the base 64. -/
lemma encode_lt_encode {c d : Char} (h : c < d) (u v : List UInt8) :
    String.utf8EncodeChar c ++ u < String.utf8EncodeChar d ++ v := by
  have hlt : c.val.toNat < d.val.toNat := UInt32.lt_iff_toNat_lt.mp (Char.lt_def.mp h)
  have hmax : d.val.toNat < 0x110000 := by
    have hvalid := d.valid
    simp only [UInt32.isValidChar, Nat.isValidChar] at hvalid
    omega
  have hsecond : ∀ n : Nat, n / 4096 = n / 64 / 64 := fun n => by omega
  have hthird : ∀ n : Nat, n / 262144 = n / 64 / 64 / 64 := fun n => by omega
  unfold String.utf8EncodeChar
  dsimp only
  split_ifs <;>
    simp (disch := omega) only [List.cons_append, List.nil_append, List.cons_lt_cons_iff,
      ofNat_lt_ofNat, ofNat_eq_ofNat, hsecond, hthird] <;>
    omega

lemma flatMap_encode_lt {cs ds : List Char} (h : cs < ds) :
    cs.flatMap String.utf8EncodeChar < ds.flatMap String.utf8EncodeChar := by
  induction cs generalizing ds with
  | nil =>
    obtain _ | ⟨d, ds⟩ := ds
    · exact absurd h (List.lt_irrefl _)
    · obtain ⟨b, bs, hb⟩ := List.exists_cons_of_ne_nil (String.utf8EncodeChar_ne_nil (c := d))
      rw [List.flatMap_cons, hb]
      exact List.nil_lt_cons _ _
  | cons c cs ih =>
    obtain _ | ⟨d, ds⟩ := ds
    · exact absurd h (List.not_lt_nil _)
    · rw [List.flatMap_cons, List.flatMap_cons]
      rcases List.cons_lt_cons_iff.mp h with hcd | ⟨rfl, hrest⟩
      · exact encode_lt_encode hcd _ _
      · exact List.append_left_lt (ih hrest)

lemma bytes_lt {s t : String} (h : s < t) : bytes s < bytes t := by
  rw [bytes_eq, bytes_eq]
  exact flatMap_encode_lt (String.lt_iff.mp h)

lemma bytes_lt_iff {s t : String} : bytes s < bytes t ↔ s < t := by
  constructor
  · intro h
    rcases lt_trichotomy s t with hlt | rfl | hgt
    · exact hlt
    · exact absurd h (List.lt_irrefl _)
    · exact absurd h (List.lt_asymm (bytes_lt hgt))
  · exact bytes_lt

/-- **Texts are ordered as their bytes are.** -/
theorem bytes_le_iff {s t : String} : bytes s ≤ bytes t ↔ s ≤ t := by
  rw [← List.not_lt, ← String.not_lt, bytes_lt_iff]

lemma bytes_inj {s t : String} : bytes s = bytes t ↔ s = t := by
  constructor
  · intro h
    rcases lt_trichotomy s t with hlt | heq | hgt
    · exact absurd (h ▸ bytes_lt hlt) (List.lt_irrefl _)
    · exact heq
    · exact absurd (h ▸ bytes_lt hgt) (List.lt_irrefl _)
  · rintro rfl
    rfl

end CallWatch.Text
