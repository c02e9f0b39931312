import Mathlib.Data.List.DropRight
import QueueDepth.Text.Blank

/-!
# Trimming

Trimming removes two margins and nothing else (`exists_margins`), and margins laid around a text do not
change what is left of it (`trimBy_padded`). So a text that was trimmed of some blanks is trimmed of all
blanks as if nothing had happened before (`trimBy_trimBy`). A text that is written item by item is
trimmed by trimming its items (`trimBy_flatMap`).
-/

namespace QueueDepth.Text

section

variable {α : Type} {drop : α → Bool}

theorem dropWhile_append_margin (text : List α) {margin : List α}
    (dropped : ∀ item ∈ margin, drop item = true) :
    ∃ rest, (∀ item ∈ rest, drop item = true) ∧
      (text ++ margin).dropWhile drop = text.dropWhile drop ++ rest := by
  rw [List.dropWhile_append]
  split
  · rename_i empty
    refine ⟨[], by simp, ?_⟩
    have all : margin.dropWhile drop = [] := List.dropWhile_eq_nil_iff.mpr dropped
    rw [List.isEmpty_iff.mp empty, all]
    rfl
  · exact ⟨margin, dropped, rfl⟩

theorem trimBy_padded {left right : List α} (text : List α)
    (leftDropped : ∀ item ∈ left, drop item = true)
    (rightDropped : ∀ item ∈ right, drop item = true) :
    trimBy drop (left ++ text ++ right) = trimBy drop text := by
  obtain ⟨rest, restDropped, kept⟩ := dropWhile_append_margin text rightDropped
  unfold trimBy
  rw [List.append_assoc, List.dropWhile_append_of_pos leftDropped, kept, List.reverse_append,
    List.dropWhile_append_of_pos]
  intro item member
  exact restDropped item (List.mem_reverse.mp member)

theorem exists_margins (drop : α → Bool) (text : List α) :
    ∃ left right, text = left ++ trimBy drop text ++ right ∧
      (∀ item ∈ left, drop item = true) ∧ (∀ item ∈ right, drop item = true) := by
  refine ⟨text.takeWhile drop, (text.dropWhile drop).rtakeWhile drop, ?_, ?_, ?_⟩
  · have parted : trimBy drop text ++ (text.dropWhile drop).rtakeWhile drop
        = text.dropWhile drop := List.rdropWhile_append_rtakeWhile
    rw [List.append_assoc, parted, List.takeWhile_append_dropWhile]
  · intro item member
    exact List.mem_takeWhile_imp member
  · intro item member
    exact List.mem_rtakeWhile_imp member

theorem mem_trimBy {item : α} {text : List α} (kept : drop item = false) (member : item ∈ text) :
    item ∈ trimBy drop text := by
  obtain ⟨left, right, parted, leftDropped, rightDropped⟩ := exists_margins drop text
  rw [parted, List.mem_append, List.mem_append] at member
  rcases member with (inLeft | inside) | inRight
  · simp [leftDropped item inLeft] at kept
  · exact inside
  · simp [rightDropped item inRight] at kept

/-- What is trimmed of few items is trimmed of more as if it still had them. -/
theorem trimBy_trimBy {few many : α → Bool} (more : ∀ item, few item = true → many item = true)
    (text : List α) : trimBy many (trimBy few text) = trimBy many text := by
  obtain ⟨left, right, parted, leftDropped, rightDropped⟩ := exists_margins few text
  have padded : trimBy many (left ++ trimBy few text ++ right) = trimBy many (trimBy few text) :=
    trimBy_padded (trimBy few text) (fun item member => more item (leftDropped item member))
      (fun item member => more item (rightDropped item member))
  rw [← parted] at padded
  exact padded.symm

theorem trimBy_eq_self {text : List α} (kept : ∀ item ∈ text, drop item = false) :
    trimBy drop text = text := by
  have nothing : ∀ items : List α, (∀ item ∈ items, drop item = false) →
      items.dropWhile drop = items := by
    intro items kept
    cases items with
    | nil => rfl
    | cons item rest => rw [List.dropWhile_cons_of_neg (by simp [kept item])]
  unfold trimBy
  rw [nothing text kept, nothing text.reverse (by simpa using kept), List.reverse_reverse]

end

/-! ## Texts written item by item -/

section

variable {α β : Type} {drop : β → Bool} {dropped : α → Bool}

theorem dropWhile_flatMap {write : α → List β} (filled : ∀ item, write item ≠ [])
    (agrees : ∀ item, ∀ unit ∈ write item, drop unit = dropped item) (text : List α) :
    (text.flatMap write).dropWhile drop = (text.dropWhile dropped).flatMap write := by
  induction text with
  | nil => rfl
  | cons item rest ih =>
    rw [List.flatMap_cons]
    cases gone : dropped item with
    | true =>
      rw [List.dropWhile_cons_of_pos gone, List.dropWhile_append_of_pos, ih]
      intro unit member
      rw [agrees item unit member, gone]
    | false =>
      rw [List.dropWhile_cons_of_neg (by simp [gone]), List.flatMap_cons]
      obtain ⟨unit, units, written⟩ := List.exists_cons_of_ne_nil (filled item)
      have stays : drop unit = false := by
        rw [agrees item unit (by simp [written]), gone]
      rw [written, List.cons_append, List.dropWhile_cons_of_neg (by simp [stays])]

theorem trimBy_flatMap {write : α → List β} (filled : ∀ item, write item ≠ [])
    (agrees : ∀ item, ∀ unit ∈ write item, drop unit = dropped item) (text : List α) :
    trimBy drop (text.flatMap write) = (trimBy dropped text).flatMap write := by
  -- From behind, every item is written backwards.
  have backwards (items : List α) :
      (items.flatMap (List.reverse ∘ write)).dropWhile drop
        = (items.dropWhile dropped).flatMap (List.reverse ∘ write) := by
    apply dropWhile_flatMap
    · intro item
      simpa using filled item
    · intro item unit member
      exact agrees item unit (by simpa using member)
  unfold trimBy
  rw [dropWhile_flatMap filled agrees, List.reverse_flatMap, backwards, List.reverse_flatMap]
  have twice : List.reverse ∘ (List.reverse ∘ write) = write := by
    funext item
    simp
  rw [twice]

end

end QueueDepth.Text
