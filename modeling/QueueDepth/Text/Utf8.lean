/-!
# UTF-8

Texts arrive as bytes. `encode` writes characters as bytes, and `decode` reads bytes as characters
or answers with the index of the first byte that begins no character.

* `decode_encode`: what was written is read back.
-/

namespace QueueDepth.Text.Utf8

/-- The bytes of a text. -/
def encode (text : List Char) : List UInt8 :=
  text.flatMap String.utf8EncodeChar

/-- The character that bytes begin with, if they begin with one. It takes four bytes at most. -/
def first? (bytes : List UInt8) : Option Char :=
  (bytes.take 4).toByteArray.utf8DecodeChar? 0

/-- Read characters from bytes that begin at index `start` of the text. -/
def decodeFrom (start : Nat) : List UInt8 → Except Nat (List Char)
  | [] => .ok []
  | byte :: rest =>
    match first? (byte :: rest) with
    | none => .error start
    | some c =>
      (decodeFrom (start + c.utf8Size) (rest.drop (c.utf8Size - 1))).map (c :: ·)
termination_by bytes => bytes.length
decreasing_by simp only [List.length_drop, List.length_cons]; omega

/-- The characters of bytes, or the index of the first byte that begins none. -/
def decode (bytes : List UInt8) : Except Nat (List Char) :=
  decodeFrom 0 bytes

/-! ## Reading what was written -/

theorem first?_encodeChar_append (c : Char) (rest : List UInt8) :
    first? (String.utf8EncodeChar c ++ rest) = some c := by
  have hsize : (String.utf8EncodeChar c).length ≤ 4 := by
    rw [String.length_utf8EncodeChar]
    exact c.utf8Size_le_four
  unfold first?
  rw [List.take_append, List.take_of_length_le hsize, List.toByteArray_append,
    ByteArray.utf8DecodeChar?_utf8EncodeChar_append]

theorem decodeFrom_encodeChar_append (c : Char) (rest : List UInt8) (start : Nat) :
    decodeFrom start (String.utf8EncodeChar c ++ rest) =
      (decodeFrom (start + c.utf8Size) rest).map (c :: ·) := by
  have hpos := c.utf8Size_pos
  have hlength : (String.utf8EncodeChar c).length = c.utf8Size := String.length_utf8EncodeChar c
  cases hbytes : String.utf8EncodeChar c ++ rest with
  | nil =>
    have := congrArg List.length hbytes
    simp only [List.length_append, List.length_nil] at this
    omega
  | cons byte tail =>
    have hfirst : first? (byte :: tail) = some c := by
      rw [← hbytes]
      exact first?_encodeChar_append c rest
    have hdrop : tail.drop (c.utf8Size - 1) = rest := by
      have := congrArg (List.drop c.utf8Size) hbytes
      rw [List.drop_append_of_le_length (by omega), List.drop_of_length_le (by omega),
        List.nil_append] at this
      rw [this, ← List.drop_succ_cons (a := byte)]
      congr 1
      omega
    rw [decodeFrom, hfirst]
    simp only [hdrop]

theorem decodeFrom_encode (text : List Char) (start : Nat) :
    decodeFrom start (encode text) = .ok text := by
  induction text generalizing start with
  | nil => simp [encode, decodeFrom]
  | cons c rest ih =>
    have happend : encode (c :: rest) = String.utf8EncodeChar c ++ encode rest := by
      simp [encode]
    rw [happend, decodeFrom_encodeChar_append, ih]
    rfl

theorem decode_encode (text : List Char) : decode (encode text) = .ok text :=
  decodeFrom_encode text 0

end QueueDepth.Text.Utf8
