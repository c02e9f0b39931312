import Mathlib.Data.Char
import Mathlib.Data.List.Lex
import QueueDepth.Proofs.Text.Ascii

/-!
# The order of texts as bytes

Texts are compared character by character. UTF-8 writes a higher character as higher bytes and no
character as the beginning of another, so texts stand in the order of their bytes.

* `encodeChar_append_lt`: two characters are told apart by their bytes, whatever follows.
* `encode_lt_encode_iff`: two texts stand in the order of their bytes.
-/

namespace QueueDepth.Text.Utf8

/-- Bytes are compared by the first two that differ. -/
theorem ofNat_cons_lt {low high : Nat} {rest more : List UInt8} (ordered : low ≤ high)
    (bounded : high < 0x100) (next : low = high → rest < more) :
    UInt8.ofNat low :: rest < UInt8.ofNat high :: more := by
  rw [List.cons_lt_cons_iff]
  rcases Nat.eq_or_lt_of_le ordered with same | below
  · exact .inr ⟨congrArg UInt8.ofNat same, next same⟩
  · refine .inl ?_
    rw [UInt8.lt_iff_toNat_lt, UInt8.toNat_ofNat_of_lt' (Nat.lt_trans below bounded),
      UInt8.toNat_ofNat_of_lt' bounded]
    exact below

/-- A lower character is written as lower bytes, whatever follows. -/
theorem encodeChar_append_lt {c d : Char} (below : c < d) (rest more : List UInt8) :
    String.utf8EncodeChar c ++ rest < String.utf8EncodeChar d ++ more := by
  have below : c.val.toNat < d.val.toNat := UInt32.lt_iff_toNat_lt.mp below
  have bounded : d.val.toNat < 0x110000 := by
    rcases d.valid with low | ⟨_, high⟩
    · exact Nat.lt_trans low (by decide)
    · exact high
  simp only [String.utf8EncodeChar]
  -- A longer form begins with a higher byte; among equal lengths the first six bits to differ decide.
  split
  · split
    · exact ofNat_cons_lt (by omega) (by omega) (by omega)
    split
    · exact ofNat_cons_lt (by omega) (by omega) (by omega)
    split
    · exact ofNat_cons_lt (by omega) (by omega) (by omega)
    · exact ofNat_cons_lt (by omega) (by omega) (by omega)
  split
  · split
    · omega
    split
    · refine ofNat_cons_lt (by omega) (by omega) fun lead => ?_
      exact ofNat_cons_lt (by omega) (by omega) (by omega)
    split
    · exact ofNat_cons_lt (by omega) (by omega) (by omega)
    · exact ofNat_cons_lt (by omega) (by omega) (by omega)
  split
  · split
    · omega
    split
    · omega
    split
    · refine ofNat_cons_lt (by omega) (by omega) fun lead => ?_
      refine ofNat_cons_lt (by omega) (by omega) fun second => ?_
      exact ofNat_cons_lt (by omega) (by omega) (by omega)
    · exact ofNat_cons_lt (by omega) (by omega) (by omega)
  · split
    · omega
    split
    · omega
    split
    · omega
    · refine ofNat_cons_lt (by omega) (by omega) fun lead => ?_
      refine ofNat_cons_lt (by omega) (by omega) fun second => ?_
      refine ofNat_cons_lt (by omega) (by omega) fun third => ?_
      exact ofNat_cons_lt (by omega) (by omega) (by omega)

theorem encode_lt_encode {text other : List Char} (before : text < other) :
    encode text < encode other := by
  rw [← List.lex_lt] at before
  induction before with
  | @nil c rest =>
    rw [encode_nil, encode_cons]
    cases written : String.utf8EncodeChar c with
    | nil => exact absurd written (encodeChar_ne_nil c)
    | cons byte bytes => exact List.nil_lt_cons byte _
  | rel below =>
    rw [encode_cons, encode_cons]
    exact encodeChar_append_lt below _ _
  | cons _ ih =>
    rw [encode_cons, encode_cons]
    exact List.append_left_lt ih

/-- Texts stand in the order of their bytes. -/
theorem encode_lt_encode_iff {text other : List Char} :
    encode text < encode other ↔ text < other := by
  refine ⟨fun before => ?_, encode_lt_encode⟩
  rcases lt_trichotomy text other with below | rfl | above
  · exact below
  · exact absurd before (List.lt_irrefl _)
  · exact absurd before (List.lt_asymm (encode_lt_encode above))

end QueueDepth.Text.Utf8
