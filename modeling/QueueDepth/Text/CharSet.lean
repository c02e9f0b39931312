import QueueDepth.Balanced

/-!
# Sets of characters

A set of characters is kept as its borders: the characters at which, in ascending order, one enters
the set and leaves it again. All operations run along borders, so that they cost what the sets have
borders and not what they have members. That borders stay in order is a part of the set
(`ascending_combineFrom`).

* `CharSet.combine`: the set of what the members of two sets say.
* `CharSet.unionAll`, `CharSet.complement`, `CharSet.between`: sets made of others, and ranges.
-/

namespace QueueDepth.Text

/-! ## Ordinals -/

/-- How many code points are kept for the halves of pairs, and so belong to no character. -/
def gapSize : Nat := 0x800

/-- The first of them. -/
def gapStart : Nat := 0xD800

/-- How many characters there are. -/
def charCount : Nat := 0x110000 - gapSize

/-- How many characters come before a character. -/
def ordinal (c : Char) : Nat :=
  if c.toNat < gapStart then c.toNat else c.toNat - gapSize

/-- The character before which so many come. -/
def charAt (n : Nat) : Char :=
  Char.ofNat (if n < gapStart then n else n + gapSize)

/-! ## Borders -/

/-- Whether one is inside at a place, given whether one is at the start. -/
def insideFrom (inside : Bool) : List Nat → Nat → Bool
  | [], _ => inside
  | border :: rest, n => if n < border then inside else insideFrom (!inside) rest n

/-- The borders behind a place, and the place itself if it is one. -/
def borderIf (before after : Bool) (place : Nat) (rest : List Nat) : List Nat :=
  if before = after then rest else place :: rest

/-- The borders of what is combined from two others, given whether one is inside each at the start. -/
def combineFrom (operation : Bool → Bool → Bool) (a b : Bool) : List Nat → List Nat → List Nat
  | [], [] => []
  | x :: xs, [] =>
    borderIf (operation a b) (operation (!a) b) x (combineFrom operation (!a) b xs [])
  | [], y :: ys =>
    borderIf (operation a b) (operation a (!b)) y (combineFrom operation a (!b) [] ys)
  | x :: xs, y :: ys =>
    if x < y then
      borderIf (operation a b) (operation (!a) b) x (combineFrom operation (!a) b xs (y :: ys))
    else if y < x then
      borderIf (operation a b) (operation a (!b)) y (combineFrom operation a (!b) (x :: xs) ys)
    else borderIf (operation a b) (operation (!a) (!b)) x (combineFrom operation (!a) (!b) xs ys)
termination_by xs ys => xs.length + ys.length

theorem mem_borderIf {before after : Bool} {place n : Nat} {rest : List Nat}
    (h : n ∈ borderIf before after place rest) : n = place ∨ n ∈ rest := by
  unfold borderIf at h
  split at h
  · exact .inr h
  · exact List.mem_cons.mp h

theorem ascending_borderIf {before after : Bool} {place : Nat} {rest : List Nat}
    (hlow : ∀ n ∈ rest, place < n) (hrest : rest.Pairwise (· < ·)) :
    (borderIf before after place rest).Pairwise (· < ·) := by
  unfold borderIf
  split
  · exact hrest
  · exact List.pairwise_cons.mpr ⟨hlow, hrest⟩

/-- Combining makes no new borders. -/
theorem mem_combineFrom {operation : Bool → Bool → Bool} {a b : Bool} {xs ys : List Nat} {n : Nat}
    (h : n ∈ combineFrom operation a b xs ys) : n ∈ xs ∨ n ∈ ys := by
  fun_induction combineFrom operation a b xs ys with
  | case1 => simp at h
  | case2 a b x xs ih =>
    rcases mem_borderIf h with rfl | h
    · simp
    · rcases ih h with h | h <;> simp_all
  | case3 a b y ys ih =>
    rcases mem_borderIf h with rfl | h
    · simp
    · rcases ih h with h | h <;> simp_all
  | case4 a b x xs y ys hlt ih =>
    rcases mem_borderIf h with rfl | h
    · simp
    · rcases ih h with h | h
      · simp [h]
      · exact .inr h
  | case5 a b x xs y ys hnot hlt ih =>
    rcases mem_borderIf h with rfl | h
    · simp
    · rcases ih h with h | h
      · exact .inl h
      · simp [h]
  | case6 a b x xs y ys hnot hnot' ih =>
    rcases mem_borderIf h with rfl | h
    · simp
    · rcases ih h with h | h <;> simp [h]

/-- What lies behind both lists of borders lies behind the combined one. -/
theorem lt_of_mem_combineFrom {operation : Bool → Bool → Bool} {a b : Bool} {xs ys : List Nat}
    {place : Nat} (hxs : ∀ n ∈ xs, place < n) (hys : ∀ n ∈ ys, place < n) :
    ∀ n ∈ combineFrom operation a b xs ys, place < n := fun n hn =>
  (mem_combineFrom hn).elim (hxs n) (hys n)

theorem ascending_combineFrom (operation : Bool → Bool → Bool) (a b : Bool) {xs ys : List Nat}
    (hxs : xs.Pairwise (· < ·)) (hys : ys.Pairwise (· < ·)) :
    (combineFrom operation a b xs ys).Pairwise (· < ·) := by
  fun_induction combineFrom operation a b xs ys with
  | case1 => exact .nil
  | case2 a b x xs ih =>
    rw [List.pairwise_cons] at hxs
    exact ascending_borderIf (lt_of_mem_combineFrom hxs.1 (by simp)) (ih hxs.2 .nil)
  | case3 a b y ys ih =>
    rw [List.pairwise_cons] at hys
    exact ascending_borderIf (lt_of_mem_combineFrom (by simp) hys.1) (ih .nil hys.2)
  | case4 a b x xs y ys hlt ih =>
    have hys' := hys
    rw [List.pairwise_cons] at hxs hys'
    refine ascending_borderIf (lt_of_mem_combineFrom hxs.1 fun n hn => ?_) (ih hxs.2 hys)
    rcases List.mem_cons.mp hn with rfl | hn
    · exact hlt
    · exact Nat.lt_trans hlt (hys'.1 n hn)
  | case5 a b x xs y ys hnot hlt ih =>
    have hxs' := hxs
    rw [List.pairwise_cons] at hys hxs'
    refine ascending_borderIf (lt_of_mem_combineFrom (fun n hn => ?_) hys.1) (ih hxs hys.2)
    rcases List.mem_cons.mp hn with rfl | hn
    · exact hlt
    · exact Nat.lt_trans hlt (hxs'.1 n hn)
  | case6 a b x xs y ys hnot hnot' ih =>
    obtain rfl : x = y := by omega
    rw [List.pairwise_cons] at hxs hys
    exact ascending_borderIf (lt_of_mem_combineFrom hxs.1 hys.1) (ih hxs.2 hys.2)

/-! ## Sets -/

/-- A set of characters. -/
structure CharSet where
  /-- How many characters come before each place where the set begins or ends. -/
  borders : List Nat
  ascending : borders.Pairwise (· < ·)
  deriving DecidableEq

namespace CharSet

/-- Whether a set holds a character. -/
def holds (set : CharSet) (c : Char) : Bool :=
  insideFrom false set.borders (ordinal c)

/-- The set without characters. -/
def empty : CharSet := ⟨[], .nil⟩

/-- The set of all characters. -/
def all : CharSet := ⟨[0], List.pairwise_singleton _ _⟩

/-- The characters from `low` to `high`, both included. -/
def between (low high : Char) : CharSet :=
  if h : ordinal low ≤ ordinal high then
    if ordinal high + 1 = charCount then ⟨[ordinal low], List.pairwise_singleton _ _⟩
    else
      ⟨[ordinal low, ordinal high + 1],
        List.pairwise_pair.mpr (Nat.lt_succ_of_le h)⟩
  else empty

/-- A single character. -/
def only (c : Char) : CharSet :=
  between c c

/-- The characters that the members of two sets say. -/
def combine (operation : Bool → Bool → Bool) (first second : CharSet) : CharSet :=
  ⟨combineFrom operation false false first.borders second.borders,
    ascending_combineFrom operation false false first.ascending second.ascending⟩

/-- All characters that a set does not hold. -/
def complement (set : CharSet) : CharSet :=
  combine (· != ·) all set

/-- The characters of both sets. -/
def union (first second : CharSet) : CharSet :=
  combine (· || ·) first second

/-- The characters of all of several sets. -/
def unionAll (sets : List CharSet) : CharSet :=
  joinAll union empty sets

/-- The characters that lie in one of several ranges. -/
def ofRanges (ranges : List (Char × Char)) : CharSet :=
  unionAll (ranges.map fun range => between range.1 range.2)

/-- The ranges between the borders of a set. -/
def rangesFrom : List Nat → List (Char × Char)
  | [] => []
  | [first] => [(charAt first, charAt (charCount - 1))]
  | first :: behind :: rest => (charAt first, charAt (behind - 1)) :: rangesFrom rest

/-- The ranges of a set, in ascending order. -/
def ranges (set : CharSet) : List (Char × Char) :=
  rangesFrom set.borders

/-- Whether all characters of a set are ASCII. -/
def isAscii (set : CharSet) : Bool :=
  set.ranges.all (·.2.toNat < 128)

/-- The character of a set that has no other. -/
def single? (set : CharSet) : Option Char :=
  match set.ranges with
  | [(first, last)] => if first = last then some first else none
  | _ => none

/-- The letters of ASCII that a set holds, in the other case. -/
def otherCase (set : CharSet) : CharSet :=
  let moved (low high : Char) (move : Char → Char) :=
    (combine (· && ·) set (between low high)).ranges.map fun range => (move range.1, move range.2)
  ofRanges (moved 'a' 'z' Char.toUpper ++ moved 'A' 'Z' Char.toLower)

/-- A set without regard to the case of letters of ASCII. -/
def folded (set : CharSet) : CharSet :=
  set.union set.otherCase

end CharSet

end QueueDepth.Text
