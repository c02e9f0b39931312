import Mathlib.Data.List.Basic
import QueueDepth.Text.Pieces

/-!
# Pieces of joined texts

Texts without the separator are cut apart again where they were joined (`pieces_intercalate`).
-/

namespace QueueDepth.Text

variable {separator : Char}

theorem split_of_notMem {text : List Char} (none : separator ∉ text) : split separator text = [text] := by
  induction text with
  | nil => rfl
  | cons c rest ih =>
    rw [List.mem_cons, not_or] at none
    obtain ⟨other, none⟩ := none
    simp [split, ih none, Ne.symm other]

theorem split_append_cons {piece : List Char} (none : separator ∉ piece) (rest : List Char) :
    split separator (piece ++ separator :: rest) = piece :: split separator rest := by
  induction piece with
  | nil => simp [split]
  | cons c piece ih =>
    rw [List.mem_cons, not_or] at none
    obtain ⟨other, none⟩ := none
    simp [split, ih none, Ne.symm other]

theorem split_intercalate {texts : List (List Char)} (some : texts ≠ [])
    (none : ∀ text ∈ texts, separator ∉ text) :
    split separator ([separator].intercalate texts) = texts := by
  induction texts with
  | nil => exact absurd rfl some
  | cons first rest ih =>
    obtain ⟨here, later⟩ := List.forall_mem_cons.mp none
    cases rest with
    | nil => rw [List.intercalate_singleton, split_of_notMem here]
    | cons second rest =>
      rw [List.intercalate_cons_cons, List.append_assoc, List.singleton_append,
        split_append_cons here, ih (by simp) later]

theorem pieces_intercalate {mark : String} {texts : List String} (single : mark.toList = [separator])
    (some : texts ≠ []) (none : ∀ text ∈ texts, separator ∉ text.toList) :
    pieces separator (mark.intercalate texts) = texts := by
  have apart : ∀ piece ∈ texts.map String.toList, separator ∉ piece := by
    simpa using none
  rw [pieces, String.toList_intercalate, single, split_intercalate (by simpa using some) apart,
    List.map_map]
  simp

/-- A joined text is made of the texts and the marks between them. -/
theorem mem_of_mem_intercalate {c : Char} {mark : List Char} {texts : List (List Char)}
    (inside : c ∈ mark.intercalate texts) : c ∈ mark ∨ ∃ text ∈ texts, c ∈ text := by
  induction texts with
  | nil => cases inside
  | cons first rest ih =>
    cases rest with
    | nil =>
      rw [List.intercalate_singleton] at inside
      exact .inr ⟨first, by simp, inside⟩
    | cons second rest =>
      rw [List.intercalate_cons_cons, List.mem_append, List.mem_append] at inside
      rcases inside with (here | between) | later
      · exact .inr ⟨first, by simp, here⟩
      · exact .inl between
      · rcases ih later with between | ⟨text, member, there⟩
        · exact .inl between
        · exact .inr ⟨text, List.mem_cons_of_mem _ member, there⟩

end QueueDepth.Text
