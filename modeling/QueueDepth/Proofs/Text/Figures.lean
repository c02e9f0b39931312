import QueueDepth.Proofs.Text.Within

/-!
# Figures in a text

The figures of a text are its longest runs of digits and signs. They tell what a line of fixed wording
says: wording holds none and is passed over (`figures_word_append`), and it ends the number before it
(`figures_append_word`), which is a figure of its own (`figures_natRepr`, `figures_intRepr`).
-/

namespace QueueDepth.Text

/-- The longest runs of digits and signs, in order. -/
def runs (text : List Char) : List (List Char) :=
  (text.splitOnP fun c => !Json.isNumeral c).filter (· ≠ [])

/-- The figures of a text, in order. -/
def figures (text : String) : List String :=
  (runs text.toList).map String.ofList

/-- Wording without figures. -/
abbrev Plain (text : String) : Prop :=
  Within (fun c => !Json.isNumeral c) text

/-- No run goes on across another character. -/
theorem runs_append_cons {c : Char} (plain : Json.isNumeral c = false) (a b : List Char) :
    runs (a ++ c :: b) = runs a ++ runs b := by
  rw [runs, List.splitOnP_append_cons a b (by simp [plain]), List.filter_append, runs, runs]

theorem runs_cons {c : Char} (plain : Json.isNumeral c = false) (b : List Char) :
    runs (c :: b) = runs b :=
  runs_append_cons plain [] b

variable {run word rest : String}

theorem figures_word_append (plain : Plain word) (rest : String) :
    figures (word ++ rest) = figures rest := by
  have passed (chars : List Char) (plain : ∀ c ∈ chars, (!Json.isNumeral c) = true) :
      runs (chars ++ rest.toList) = runs rest.toList := by
    induction chars with
    | nil => rfl
    | cons c more ih =>
      obtain ⟨outside, plain⟩ := List.forall_mem_cons.mp plain
      rw [List.cons_append, runs_cons (by simpa using outside), ih plain]
  rw [figures, String.toList_append, passed _ plain, figures]

/-- A numeral is one figure. -/
theorem figures_numeral (numeral : Within Json.isNumeral run) (some : run ≠ "") :
    figures run = [run] := by
  have whole : run.toList.splitOnP (fun c => !Json.isNumeral c) = [run.toList] :=
    List.splitOnP_eq_singleton fun c member => by simp [numeral c member]
  simp [figures, runs, whole, some]

/-- Wording ends the figure before it. -/
theorem figures_append_word (plain : Plain word) (some : word ≠ "") :
    figures (run ++ (word ++ rest)) = figures run ++ figures rest := by
  cases chars : word.toList with
  | nil => exact absurd (String.toList_eq_nil_iff.mp chars) some
  | cons c more =>
    have outside : Json.isNumeral c = false := by simpa using plain c (by simp [chars])
    rw [← figures_word_append plain rest]
    simp only [figures, String.toList_append, chars, List.cons_append, runs_append_cons outside,
      runs_cons outside, List.map_append]

theorem figures_append_last (plain : Plain word) (some : word ≠ "") :
    figures (run ++ word) = figures run := by
  have closed : figures (run ++ (word ++ "")) = figures run ++ [] := figures_append_word plain some
  rwa [String.append_empty, List.append_nil] at closed

theorem natRepr_ne_empty (n : Nat) : n.repr ≠ "" :=
  fun empty => Json.repr_ne_nil n (congrArg String.toList empty)

theorem intRepr_ne_empty (value : Int) : value.repr ≠ "" :=
  fun empty => Json.repr_ne_nil value (congrArg String.toList empty)

theorem figures_natRepr (n : Nat) : figures n.repr = [n.repr] :=
  figures_numeral (within_natRepr n) (natRepr_ne_empty n)

theorem figures_intRepr (value : Int) : figures value.repr = [value.repr] :=
  figures_numeral (within_intRepr value) (intRepr_ne_empty value)

theorem figures_padStart (width : Nat) : figures (padStart width run) = figures run :=
  figures_word_append (within_replicate rfl _) run

end QueueDepth.Text
