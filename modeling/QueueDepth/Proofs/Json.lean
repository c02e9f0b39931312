import Mathlib.Data.List.Basic
import Std.Data.String.ToInt
import QueueDepth.Json
import QueueDepth.Proofs.Number.Decimal

/-!
# JSON texts are unambiguous

Two values with the same text are equal (`Json.render_injective`). The text of a value may be followed by
anything but more of a numeral, so the argument reads two texts side by side: each part of one is the same
part of the other, and so is what stands behind it.

* `Json.number_unique`, `Json.quoted_unique`: numerals and texts.
* `Json.mark_eq_of_layout`: the first character tells what kind of value follows.
* `Json.layout_unique`: whole values, by induction on their items and fields.
-/

namespace QueueDepth

/-- Two runs of accepted characters are the same if what stands behind them begins with none. -/
theorem append_unique {α : Type} {p : α → Bool} {a b r s : List α} (ha : ∀ c ∈ a, p c = true)
    (hb : ∀ c ∈ b, p c = true) (hr : r.takeWhile p = []) (hs : s.takeWhile p = [])
    (same : a ++ r = b ++ s) : a = b ∧ r = s := by
  have runs : a = b := by
    have taken := congrArg (List.takeWhile p) same
    rwa [List.takeWhile_append_of_pos ha, List.takeWhile_append_of_pos hb, hr, hs,
      List.append_nil, List.append_nil] at taken
  subst runs
  exact ⟨rfl, List.append_cancel_left same⟩

namespace Json

/-! ## Numbers -/

/-- Whether a character can stand in a numeral. -/
def isNumeral (c : Char) : Bool :=
  c.isDigit || c == '-'

/-- Nothing behind a value continues a numeral. -/
def Ends (rest : List Char) : Prop :=
  rest.takeWhile isNumeral = []

theorem ends_nil : Ends [] :=
  rfl

theorem ends_cons {c : Char} {rest : List Char} (other : isNumeral c = false) : Ends (c :: rest) := by
  simp [Ends, other]

theorem isNumeral_of_mem_decimal {c : Char} {n : Nat} (member : c ∈ n.repr.toList) :
    isNumeral c = true := by
  rw [Nat.toList_repr] at member
  simp [isNumeral, Number.isDigit_of_mem_decimal member]

theorem isNumeral_of_mem_repr {c : Char} {value : Int} (member : c ∈ value.repr.toList) :
    isNumeral c = true := by
  cases value with
  | ofNat n => exact isNumeral_of_mem_decimal member
  | negSucc n =>
    have parts : c = '-' ∨ c ∈ n.succ.repr.toList := by
      simpa [Int.repr, String.toList_append] using member
    rcases parts with rfl | member
    · rfl
    · exact isNumeral_of_mem_decimal member

theorem repr_ne_nil (value : Int) : value.repr.toList ≠ [] := by
  cases value with
  | ofNat n =>
    change n.repr.toList ≠ []
    rw [Nat.toList_repr]
    exact Nat.toDigits_ne_nil
  | negSucc n => simp [Int.repr, String.toList_append]

theorem number_unique {m n : Int} {r s : List Char} (hr : Ends r) (hs : Ends s)
    (same : m.repr.toList ++ r = n.repr.toList ++ s) : m = n ∧ r = s := by
  obtain ⟨digits, rest⟩ := append_unique (fun _ => isNumeral_of_mem_repr)
    (fun _ => isNumeral_of_mem_repr) hr hs same
  exact ⟨Int.repr_injective (String.toList_inj.mp digits), rest⟩

/-! ## Texts -/

/-- The value of a hexadecimal digit. -/
def hexValue (c : Char) : Nat :=
  if c.isDigit then c.toNat - '0'.toNat else c.toNat - 'a'.toNat + 10

theorem hexValue_digitChar : ∀ d < 16, hexValue (Nat.digitChar d) = d := by
  decide

/-- The character that is written at the front of a text, and what follows it. -/
def unescape : List Char → Option (Char × List Char)
  | '\\' :: '"' :: rest => some ('"', rest)
  | '\\' :: '\\' :: rest => some ('\\', rest)
  | '\\' :: 'b' :: rest => some ('\x08', rest)
  | '\\' :: 't' :: rest => some ('\t', rest)
  | '\\' :: 'n' :: rest => some ('\n', rest)
  | '\\' :: 'f' :: rest => some ('\x0c', rest)
  | '\\' :: 'r' :: rest => some ('\r', rest)
  | '\\' :: 'u' :: '0' :: '0' :: high :: low :: rest =>
    some (Char.ofNat (16 * hexValue high + hexValue low), rest)
  | c :: rest => some (c, rest)
  | [] => none

theorem unescape_of_ne {c : Char} (plain : c ≠ '\\') (rest : List Char) :
    unescape (c :: rest) = some (c, rest) := by
  unfold unescape
  split <;> simp_all

theorem unescape_escaped (c : Char) (rest : List Char) :
    unescape (escaped c ++ rest) = some (c, rest) := by
  unfold escaped
  split
  case h_8 plain _ _ _ _ _ =>
    split
    · rename_i control
      have code : 16 * (c.toNat / 16) + c.toNat % 16 = c.toNat := Nat.div_add_mod _ _
      simp only [List.cons_append, List.nil_append, unescape]
      rw [hexValue_digitChar _ (by omega), hexValue_digitChar _ (by omega), code,
        Char.ofNat_toNat]
    · exact unescape_of_ne plain rest
  all_goals rfl

theorem escaped_unique {c d : Char} {r s : List Char} (same : escaped c ++ r = escaped d ++ s) :
    c = d ∧ r = s := by
  have read := congrArg unescape same
  rw [unescape_escaped, unescape_escaped] at read
  exact Prod.mk.inj (Option.some.inj read)

/-- No written character begins with the mark that ends a text. -/
theorem escaped_ne_quote (c : Char) (r s : List Char) : escaped c ++ r ≠ '"' :: s := by
  intro same
  have read : unescape (escaped c ++ r) = some ('"', s) := by
    rw [same, unescape_of_ne (by decide)]
  rw [unescape_escaped] at read
  obtain ⟨rfl, rfl⟩ := Prod.mk.inj (Option.some.inj read)
  simp [escaped] at same

theorem escapes_unique {xs ys r s : List Char}
    (same : xs.flatMap escaped ++ '"' :: r = ys.flatMap escaped ++ '"' :: s) : xs = ys ∧ r = s := by
  induction xs generalizing ys with
  | nil =>
    cases ys with
    | nil => exact ⟨rfl, (List.cons.inj same).2⟩
    | cons d ys =>
      rw [List.flatMap_cons, List.append_assoc] at same
      exact absurd same.symm (escaped_ne_quote d _ _)
  | cons c xs ih =>
    cases ys with
    | nil =>
      rw [List.flatMap_cons, List.append_assoc] at same
      exact absurd same (escaped_ne_quote c _ _)
    | cons d ys =>
      rw [List.flatMap_cons, List.flatMap_cons, List.append_assoc, List.append_assoc] at same
      obtain ⟨rfl, rest⟩ := escaped_unique same
      obtain ⟨rfl, rfl⟩ := ih rest
      exact ⟨rfl, rfl⟩

theorem quoted_unique {a b : String} {r s : List Char} (same : quoted a ++ r = quoted b ++ s) :
    a = b ∧ r = s := by
  simp only [quoted, List.cons_append, List.append_assoc, List.nil_append, List.cons.injEq,
    true_and] at same
  obtain ⟨chars, rest⟩ := escapes_unique same
  exact ⟨String.toList_inj.mp chars, rest⟩

/-! ## Values -/

/-- The mark that begins values of a kind; numbers have none. -/
def opening? : Json → Option Char
  | null => some 'n'
  | number _ => none
  | text _ => some '"'
  | list _ => some '['
  | object _ => some '\x7b'

theorem exists_cons_of_layout (level : Nat) (json : Json) :
    ∃ c rest, layout level json = c :: rest ∧
      json.opening? = if isNumeral c then none else some c := by
  rcases json with _ | value | value | items | fields
  · exact ⟨_, _, rfl, rfl⟩
  · cases digits : value.repr.toList with
    | nil => exact absurd digits (repr_ne_nil value)
    | cons c rest =>
      have first : c ∈ value.repr.toList := by simp [digits]
      have numeral : isNumeral c = true := isNumeral_of_mem_repr first
      exact ⟨c, rest, by rw [layout, digits], by simp [opening?, numeral]⟩
  · exact ⟨_, _, rfl, rfl⟩
  · cases items with
    | nil => exact ⟨_, _, by rw [layout], rfl⟩
    | cons item items => exact ⟨_, _, by rw [layout]; rfl, rfl⟩
  · rcases fields with _ | ⟨⟨name, value⟩, fields⟩
    · exact ⟨_, _, by rw [layout], rfl⟩
    · exact ⟨_, _, by rw [layout]; rfl, rfl⟩

/-- The first character of a value tells its kind. -/
theorem opening?_eq_of_layout {level : Nat} {a b : Json} {r s : List Char}
    (same : layout level a ++ r = layout level b ++ s) : a.opening? = b.opening? := by
  obtain ⟨c, _, ha, openA⟩ := exists_cons_of_layout level a
  obtain ⟨d, _, hb, openB⟩ := exists_cons_of_layout level b
  rw [ha, hb] at same
  obtain ⟨rfl, _⟩ := List.cons.inj same
  rw [openA, openB]

theorem ends_newline (level : Nat) (rest : List Char) : Ends (newline level ++ rest) :=
  ends_cons rfl

theorem ends_items (level lower : Nat) (items : List Json) (rest : List Char) :
    Ends (layoutItems level items ++ (newline lower ++ rest)) := by
  cases items with
  | nil => exact ends_newline lower rest
  | cons item items => exact ends_cons rfl

theorem ends_fields (level lower : Nat) (fields : List (String × Json)) (rest : List Char) :
    Ends (layoutFields level fields ++ (newline lower ++ rest)) := by
  cases fields with
  | nil => exact ends_newline lower rest
  | cons field fields => exact ends_cons rfl

mutual

theorem layout_unique (level : Nat) (a b : Json) (r s : List Char) (hr : Ends r) (hs : Ends s)
    (same : layout level a ++ r = layout level b ++ s) : a = b ∧ r = s := by
  have opened := opening?_eq_of_layout same
  cases a with
  | null =>
    cases b <;> cases opened
    exact ⟨rfl, List.append_cancel_left same⟩
  | number m =>
    cases b with
    | number n =>
      obtain ⟨rfl, rfl⟩ := number_unique hr hs same
      exact ⟨rfl, rfl⟩
    | _ => cases opened
  | text x =>
    cases b with
    | text y =>
      obtain ⟨rfl, rfl⟩ := quoted_unique same
      exact ⟨rfl, rfl⟩
    | _ => cases opened
  | list xs =>
    cases b with
    | list ys =>
      rcases xs with _ | ⟨x, xs⟩ <;> rcases ys with _ | ⟨y, ys⟩
      · exact ⟨rfl, by simpa [layout] using same⟩
      · simp [layout, newline] at same
      · simp [layout, newline] at same
      · simp only [layout, List.cons_append, List.append_assoc, List.cons.injEq, true_and,
          List.append_cancel_left_eq] at same
        obtain ⟨rfl, rest⟩ := layout_unique _ x y _ _ (ends_items ..) (ends_items ..) same
        obtain ⟨rfl, closed⟩ := layoutItems_unique _ level xs ys _ _ rest
        exact ⟨rfl, (List.cons.inj closed).2⟩
    | _ => cases opened
  | object xs =>
    cases b with
    | object ys =>
      rcases xs with _ | ⟨⟨m, x⟩, xs⟩ <;> rcases ys with _ | ⟨⟨n, y⟩, ys⟩
      · exact ⟨rfl, by simpa [layout] using same⟩
      · simp [layout, newline] at same
      · simp [layout, newline] at same
      · simp only [layout, List.cons_append, List.append_assoc, List.cons.injEq, true_and,
          List.append_cancel_left_eq] at same
        obtain ⟨rfl, named⟩ := quoted_unique same
        simp only [List.nil_append, List.cons.injEq, true_and] at named
        obtain ⟨rfl, rest⟩ := layout_unique _ x y _ _ (ends_fields ..) (ends_fields ..) named
        obtain ⟨rfl, closed⟩ := layoutFields_unique _ level xs ys _ _ rest
        exact ⟨rfl, (List.cons.inj closed).2⟩
    | _ => cases opened

theorem layoutItems_unique (level lower : Nat) (as bs : List Json) (r s : List Char)
    (same : layoutItems level as ++ (newline lower ++ r) =
      layoutItems level bs ++ (newline lower ++ s)) : as = bs ∧ r = s := by
  rcases as with _ | ⟨a, as⟩ <;> rcases bs with _ | ⟨b, bs⟩
  · exact ⟨rfl, List.append_cancel_left same⟩
  · simp [layoutItems, newline] at same
  · simp [layoutItems, newline] at same
  · simp only [layoutItems, List.cons_append, List.append_assoc, List.cons.injEq, true_and,
      List.append_cancel_left_eq] at same
    obtain ⟨rfl, rest⟩ := layout_unique level a b _ _ (ends_items ..) (ends_items ..) same
    obtain ⟨rfl, rfl⟩ := layoutItems_unique level lower as bs r s rest
    exact ⟨rfl, rfl⟩

theorem layoutFields_unique (level lower : Nat) (as bs : List (String × Json)) (r s : List Char)
    (same : layoutFields level as ++ (newline lower ++ r) =
      layoutFields level bs ++ (newline lower ++ s)) : as = bs ∧ r = s := by
  rcases as with _ | ⟨⟨m, a⟩, as⟩ <;> rcases bs with _ | ⟨⟨n, b⟩, bs⟩
  · exact ⟨rfl, List.append_cancel_left same⟩
  · simp [layoutFields, newline] at same
  · simp [layoutFields, newline] at same
  · simp only [layoutFields, List.cons_append, List.append_assoc, List.cons.injEq, true_and,
      List.append_cancel_left_eq] at same
    obtain ⟨rfl, named⟩ := quoted_unique same
    simp only [List.nil_append, List.cons.injEq, true_and] at named
    obtain ⟨rfl, rest⟩ := layout_unique level a b _ _ (ends_fields ..) (ends_fields ..) named
    obtain ⟨rfl, rfl⟩ := layoutFields_unique level lower as bs r s rest
    exact ⟨rfl, rfl⟩

end

theorem render_injective : Function.Injective render := by
  intro a b same
  have chars : layout 0 a ++ [] = layout 0 b ++ [] := by
    rw [List.append_nil, List.append_nil]
    exact String.ofList_injective same
  exact (layout_unique 0 a b [] [] ends_nil ends_nil chars).1

end Json

end QueueDepth
