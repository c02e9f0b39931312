import QueueDepth.Proofs.Text.Trim
import QueueDepth.Text.Utf8

/-!
# Plain characters in UTF-8

The 128 plain characters are single bytes, and none of these bytes occurs in the form of another
character. So bytes can be searched for a plain character, and trimmed of plain blanks, as if they were
the text itself.
-/

namespace QueueDepth.Text

namespace Utf8

@[simp]
theorem encode_nil : encode [] = [] :=
  rfl

@[simp]
theorem encode_cons (c : Char) (text : List Char) :
    encode (c :: text) = String.utf8EncodeChar c ++ encode text := by
  simp [encode]

@[simp]
theorem encode_append (text more : List Char) :
    encode (text ++ more) = encode text ++ encode more := by
  simp [encode]

theorem encodeChar_ne_nil (c : Char) : String.utf8EncodeChar c ≠ [] := by
  have positive := c.utf8Size_pos
  rw [← String.length_utf8EncodeChar] at positive
  exact List.ne_nil_of_length_pos positive

theorem encodeChar_of_plain {c : Char} (low : c.toNat < 0x80) :
    String.utf8EncodeChar c = [UInt8.ofNat c.toNat] := by
  have small : c.val.toNat ≤ 0x7f := Nat.le_of_lt_succ low
  simp only [String.utf8EncodeChar, if_pos small]
  rfl

/-- A byte below 128 is the whole of its character. -/
theorem toNat_of_mem_encodeChar {c : Char} {byte : UInt8} (member : byte ∈ String.utf8EncodeChar c)
    (plain : byte.toNat < 0x80) : c.toNat = byte.toNat := by
  have valid : c.val.toNat = c.toNat := rfl
  -- The bytes of every other character have their highest bit set.
  have high (low mark : Nat) (marked : 0x80 ≤ mark) (bounded : low + mark < 0x100) :
      byte ≠ UInt8.ofNat (low + mark) := by
    rintro rfl
    rw [UInt8.toNat_ofNat', Nat.mod_eq_of_lt (by omega)] at plain
    omega
  simp only [String.utf8EncodeChar] at member
  split at member
  · rw [List.mem_singleton] at member
    rw [member, UInt8.toNat_ofNat']
    omega
  · exfalso
    split at member
    · simp only [List.mem_cons, List.not_mem_nil, or_false] at member
      rcases member with lead | tail
      · exact high _ _ (by decide) (by omega) lead
      · exact high _ _ (by decide) (by omega) tail
    · split at member
      · simp only [List.mem_cons, List.not_mem_nil, or_false] at member
        rcases member with lead | tail | tail
        · exact high _ _ (by decide) (by omega) lead
        · exact high _ _ (by decide) (by omega) tail
        · exact high _ _ (by decide) (by omega) tail
      · simp only [List.mem_cons, List.not_mem_nil, or_false] at member
        rcases member with lead | tail | tail | tail
        · exact high _ _ (by decide) (by omega) lead
        · exact high _ _ (by decide) (by omega) tail
        · exact high _ _ (by decide) (by omega) tail
        · exact high _ _ (by decide) (by omega) tail

theorem ne_of_mem_encodeChar {c plain : Char} {byte : UInt8} (low : plain.toNat < 0x80)
    (other : c ≠ plain) (member : byte ∈ String.utf8EncodeChar c) :
    byte ≠ UInt8.ofNat plain.toNat := by
  rintro rfl
  have whole := toNat_of_mem_encodeChar member
  rw [UInt8.toNat_ofNat', Nat.mod_eq_of_lt (by omega)] at whole
  exact other (Char.toNat_inj.mp (whole low))

end Utf8

/-! ## Plain blanks -/

/-- The characters that are blanks of plain ASCII. -/
def isPlainBlank (c : Char) : Bool :=
  c == ' ' || c == '\t' || c == '\n' || c == '\x0C' || c == '\r'

theorem isBlank_of_isPlainBlank {c : Char} (plain : isPlainBlank c = true) : isBlank c = true := by
  simp only [isPlainBlank, Bool.or_eq_true, beq_iff_eq] at plain
  rcases plain with (((rfl | rfl) | rfl) | rfl) | rfl <;> decide

theorem isAsciiBlank_of_mem_encodeChar (c : Char) :
    ∀ byte ∈ String.utf8EncodeChar c, isAsciiBlank byte = isPlainBlank c := by
  intro byte member
  cases plain : isPlainBlank c with
  | true =>
    simp only [isPlainBlank, Bool.or_eq_true, beq_iff_eq] at plain
    have low : c.toNat < 0x80 := by
      rcases plain with (((rfl | rfl) | rfl) | rfl) | rfl <;> decide
    rw [Utf8.encodeChar_of_plain low, List.mem_singleton] at member
    rw [member]
    rcases plain with (((rfl | rfl) | rfl) | rfl) | rfl <;> rfl
  | false =>
    simp only [isPlainBlank, Bool.or_eq_false_iff, beq_eq_false_iff_ne] at plain
    obtain ⟨⟨⟨⟨space, tab⟩, feed⟩, form⟩, carriage⟩ := plain
    simp only [isAsciiBlank, Bool.or_eq_false_iff, beq_eq_false_iff_ne]
    refine ⟨⟨⟨⟨?_, ?_⟩, ?_⟩, ?_⟩, ?_⟩
    · exact Utf8.ne_of_mem_encodeChar (by decide) space member
    · exact Utf8.ne_of_mem_encodeChar (by decide) tab member
    · exact Utf8.ne_of_mem_encodeChar (by decide) feed member
    · exact Utf8.ne_of_mem_encodeChar (by decide) form member
    · exact Utf8.ne_of_mem_encodeChar (by decide) carriage member

/-- Trimming the bytes of a text is trimming the text. -/
theorem trimAscii_encode (text : List Char) :
    trimAscii (Utf8.encode text) = Utf8.encode (trimBy isPlainBlank text) :=
  trimBy_flatMap Utf8.encodeChar_ne_nil isAsciiBlank_of_mem_encodeChar text

/-- The blanks that are trimmed of bytes would be trimmed of the text anyway. -/
theorem trim_trimBy_isPlainBlank (text : List Char) : trim (trimBy isPlainBlank text) = trim text :=
  trimBy_trimBy (fun _ => isBlank_of_isPlainBlank) text

end QueueDepth.Text
