import QueueDepth.Proofs.Terminal.Stripped

/-!
# What is shown of output

Whatever is shown of a text stays shown when more text follows. So output that begins with a graphic
character of ASCII, outside of any escape sequence, shows something (`shown_ne_empty`).
-/

namespace QueueDepth.Terminal

/-- Whether a character has a picture in ASCII. -/
def IsGraphic (c : Char) : Prop :=
  0x20 < c.toNat ∧ c.toNat < 0x7F

instance (c : Char) : Decidable (IsGraphic c) :=
  inferInstanceAs (Decidable (_ ∧ _))

theorem IsGraphic.not_stripped {c : Char} (graphic : IsGraphic c) : isStripped c = false := by
  obtain ⟨above, below⟩ := graphic
  simp only [isStripped, Bool.or_eq_false_iff, Bool.and_eq_false_iff, decide_eq_false_iff_not]
  omega

namespace Filter

/-- What was shown before stays behind what is shown next. -/
theorem exists_foldl_readBehind (filter : Filter) (before text : List Char) :
    ∃ more, (text.foldl readBehind (filter, before)).2 = more ++ before := by
  induction text generalizing filter before with
  | nil => exact ⟨[], rfl⟩
  | cons c text ih =>
    rw [List.foldl_cons, readBehind]
    obtain ⟨more, shown⟩ := ih (filter.read c).1 (if (filter.read c).2 then c :: before else before)
    rw [shown]
    split
    · exact ⟨more ++ [c], by simp⟩
    · exact ⟨more, rfl⟩

theorem run_ne_nil_of_graphic {c : Char} (graphic : IsGraphic c) (text : List Char) :
    (run ⟨.ground, false⟩ (c :: text)).2 ≠ [] := by
  have first : (run ⟨.ground, false⟩ (c :: text)).2 =
      (text.foldl readBehind (⟨.ground, true⟩, [c])).2.reverse := by
    have read : read ⟨.ground, false⟩ c = (⟨.ground, true⟩, true) :=
      read_ground_of_not_stripped graphic.not_stripped false
    simp [run, readBehind, read]
  obtain ⟨more, shown⟩ := exists_foldl_readBehind ⟨.ground, true⟩ [c] text
  rw [first, shown]
  simp

end Filter

/-- Output that begins with a graphic character shows something, with colour or without. -/
theorem shown_ne_empty {text : String} {c : Char} {rest : List Char} (chars : text.toList = c :: rest)
    (graphic : IsGraphic c) (colour : Bool) (pieces : List String) :
    shown colour (text :: pieces) ≠ "" := by
  unfold shown
  split
  · intro empty
    have joined := congrArg String.toList empty
    simp [String.toList_join, chars] at joined
  · intro empty
    have left : plainFrom .ground ((text :: pieces).map String.toList) = [] :=
      String.ofList_injective empty
    rw [List.map_cons, plainFrom, chars] at left
    exact Filter.run_ne_nil_of_graphic graphic rest (List.append_eq_nil_iff.mp left).1

end QueueDepth.Terminal
