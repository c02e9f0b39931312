import QueueDepth.Terminal.Colour

/-!
# What output loses

Plain output never shows a control character of ASCII, but for white space, and loses nothing as long as
there is none. So a text comes out as it is exactly if all its characters are ones that can come out.

* `printable_plain`: what comes out of any text.
* `plain_eq_join_iff`, `shown_eq_join_iff`: what comes out unaltered.
-/

namespace QueueDepth.Terminal

/-- Whether a character never comes out of plain output: the control characters of ASCII, but for its
white space. -/
def isStripped (c : Char) : Bool :=
  (c.toNat < 0x20 && !isLayout c) || c.toNat = 0x7F

/-- All of these characters can come out. -/
def Kept (text : List Char) : Prop :=
  ∀ c ∈ text, isStripped c = false

instance (text : List Char) : Decidable (Kept text) :=
  List.decidableBAll (fun c => isStripped c = false) text

/-- A text of characters that can come out. -/
def Printable (text : String) : Prop :=
  Kept text.toList

instance (text : String) : Decidable (Printable text) :=
  inferInstanceAs (Decidable (Kept _))

@[simp]
theorem kept_nil : Kept [] := by
  simp [Kept]

@[simp]
theorem kept_cons {c : Char} {text : List Char} :
    Kept (c :: text) ↔ isStripped c = false ∧ Kept text :=
  List.forall_mem_cons

@[simp]
theorem kept_append {a b : List Char} : Kept (a ++ b) ↔ Kept a ∧ Kept b :=
  List.forall_mem_append

theorem kept_replicate {c : Char} (kept : isStripped c = false) (n : Nat) :
    Kept (List.replicate n c) := by
  intro d member
  rw [List.eq_of_mem_replicate member]
  exact kept

/-! ## Single characters -/

variable {c : Char} {sequence : Sequence}

theorem isStripped_of_broken {next : Sequence} (broken : Sequence.broken? c = some next) :
    isStripped c = true := by
  unfold Sequence.broken? at broken
  split at broken
  · rename_i cancels
    rcases cancels with rfl | rfl <;> rfl
  · split at broken
    · rename_i escapes
      rw [escapes]
      rfl
    · cases broken

/-- Inside a sequence or outside, a character that is shown is none of those that are stripped. -/
theorem isStripped_of_shows (shows : (sequence.step c).2.shows c = true) : isStripped c = false := by
  unfold Sequence.step at shows
  unfold isStripped
  cases broken : Sequence.broken? c with
  | some next => simp [broken, Effect.shows] at shows
  | none =>
    simp only [broken] at shows
    split at shows
    · rename_i control
      have layout : isLayout c = true := by
        by_cases executes : sequence.executes = true
        · simpa [executes, Effect.shows] using shows
        · simp only [executes, Bool.false_eq_true, if_false] at shows
          split at shows <;> simp [Effect.shows] at shows
      have other : c.toNat ≠ 0x7F := by omega
      simp [layout, other]
    · split at shows
      · simp only [Bool.or_eq_false_iff, Bool.and_eq_false_iff, decide_eq_false_iff_not]
        omega
      · split at shows
        · simp [Effect.shows] at shows
        · simp only [Bool.or_eq_false_iff, Bool.and_eq_false_iff, decide_eq_false_iff_not]
          omega

/-- Outside of sequences every other character is shown, and no sequence begins. -/
theorem step_ground_of_not_stripped (kept : isStripped c = false) :
    (Sequence.ground.step c).1 = .ground ∧ (Sequence.ground.step c).2.shows c = true := by
  have whole : Sequence.broken? c = none := by
    cases broken : Sequence.broken? c with
    | none => rfl
    | some next =>
      rw [isStripped_of_broken broken] at kept
      cases kept
  simp only [isStripped, Bool.or_eq_false_iff, Bool.and_eq_false_iff, decide_eq_false_iff_not,
    Bool.not_eq_false'] at kept
  unfold Sequence.step
  simp only [whole]
  split
  · rename_i control
    have layout : isLayout c = true := by
      rcases kept.1 with graphic | layout
      · exact absurd control graphic
      · exact layout
    exact ⟨rfl, by simp [Sequence.executes, Effect.shows, layout]⟩
  · split
    · exact ⟨rfl, rfl⟩
    · rw [if_neg kept.2, if_pos trivial]
      exact ⟨rfl, rfl⟩

namespace Filter

theorem isStripped_of_read {filter : Filter} (shows : (filter.read c).2 = true) :
    isStripped c = false := by
  unfold read at shows
  split at shows
  · unfold continueShowing at shows
    split at shows
    · rename_i direct
      exact isStripped_of_shows direct
    · exact isStripped_of_shows shows
  · exact isStripped_of_shows shows

theorem read_ground_of_not_stripped (kept : isStripped c = false) (showing : Bool) :
    read ⟨.ground, showing⟩ c = (⟨.ground, true⟩, true) := by
  obtain ⟨ground, shows⟩ := step_ground_of_not_stripped kept
  cases showing with
  | false => simp [read, absorb, ground, shows]
  | true => simp [read, continueShowing, shows]

/-! ## Texts -/

theorem kept_foldl {filter : Filter} {before text : List Char} (clean : Kept before) :
    Kept (text.foldl readBehind (filter, before)).2 := by
  induction text generalizing filter before with
  | nil => exact clean
  | cons first rest ih =>
    rw [List.foldl_cons, readBehind]
    apply ih
    split
    · rename_i shows
      exact kept_cons.mpr ⟨isStripped_of_read shows, clean⟩
    · exact clean

theorem kept_run (filter : Filter) (text : List Char) : Kept (filter.run text).2 :=
  fun c member => kept_foldl kept_nil c (List.mem_reverse.mp member)

theorem foldl_readBehind_of_kept {text : List Char} (kept : Kept text) (showing : Bool)
    (before : List Char) :
    ∃ showing', text.foldl readBehind (⟨.ground, showing⟩, before) =
      (⟨.ground, showing'⟩, text.reverse ++ before) := by
  induction text generalizing before showing with
  | nil => exact ⟨showing, rfl⟩
  | cons first rest ih =>
    obtain ⟨here, later⟩ := kept_cons.mp kept
    rw [List.foldl_cons, readBehind, read_ground_of_not_stripped here]
    obtain ⟨showing', shown⟩ := ih later true (first :: before)
    exact ⟨showing', by simpa using shown⟩

/-- Outside of sequences a text without stripped characters is shown as it is. -/
theorem run_ground_of_kept {text : List Char} (kept : Kept text) (showing : Bool) :
    (run ⟨.ground, showing⟩ text).1.sequence = .ground ∧ (run ⟨.ground, showing⟩ text).2 = text := by
  obtain ⟨showing', shown⟩ := foldl_readBehind_of_kept kept showing []
  simp [run, shown]

end Filter

theorem kept_plainFrom (sequence : Sequence) (pieces : List (List Char)) :
    Kept (plainFrom sequence pieces) := by
  induction pieces generalizing sequence with
  | nil => exact kept_nil
  | cons piece rest ih => exact kept_append.mpr ⟨Filter.kept_run _ piece, ih _⟩

theorem plainFrom_ground_of_kept {pieces : List (List Char)} (kept : ∀ piece ∈ pieces, Kept piece) :
    plainFrom .ground pieces = pieces.flatten := by
  induction pieces with
  | nil => rfl
  | cons piece rest ih =>
    obtain ⟨here, later⟩ := List.forall_mem_cons.mp kept
    obtain ⟨ground, shown⟩ := Filter.run_ground_of_kept here false
    rw [plainFrom, List.flatten_cons]
    simp only [ground, shown]
    rw [ih later]

/-! ## Output -/

/-- Whatever is written, plain output is printable. -/
theorem printable_plain (pieces : List String) : Printable (plain pieces) := by
  rw [Printable, plain, String.toList_ofList]
  exact kept_plainFrom _ _

theorem plain_eq_join_iff {pieces : List String} :
    plain pieces = String.join pieces ↔ ∀ piece ∈ pieces, Printable piece := by
  constructor
  · intro same piece member c inside
    have shown := printable_plain pieces
    rw [same, Printable, String.toList_join] at shown
    exact shown c (List.mem_flatMap.mpr ⟨piece, member, inside⟩)
  · intro kept
    rw [plain, plainFrom_ground_of_kept, ← List.flatMap_def, ← String.toList_join,
      String.ofList_toList]
    intro piece member
    obtain ⟨text, listed, rfl⟩ := List.mem_map.mp member
    exact kept text listed

/-- Output is what was written exactly if colours are kept or there is nothing to strip. -/
theorem shown_eq_join_iff {colour : Bool} {pieces : List String} :
    shown colour pieces = String.join pieces ↔
      colour = true ∨ ∀ piece ∈ pieces, Printable piece := by
  unfold shown
  cases colour with
  | true => simp
  | false => simp [plain_eq_join_iff]

end QueueDepth.Terminal
