import QueueDepth.Proofs.Report.Json
import QueueDepth.Proofs.Text.Figures
import QueueDepth.Report.Text

/-!
# What the lines of a report say

Each line of a report has fixed wording around its numbers, and a line about a key begins with its label.
So the numbers are the figures of the line, and the label is what stands before the colon. Lines that may
be left out are told from the ones behind them by a letter, and a track begins at each line that is not
indented (`Report.tracks_of_trackLines`).
-/

namespace QueueDepth

open Text

/-! ## Labels -/

/-- What is said of a key stands behind a colon, which is in no label. -/
theorem Key.label_append_unique {a b : Key} {r s : String} (hr : r.toList.head? = some ':')
    (hs : s.toList.head? = some ':') (same : a.label ++ r = b.label ++ s) : a = b ∧ r = s := by
  have apart (key : Key) : Within (· != ':') key.label := by
    cases key with
    | actor id =>
      have wording : Within (· != ':') "actor " := by decide
      exact within_append.mpr ⟨wording, within_ne_natRepr rfl id⟩
    | pool => decide
    | system => decide
  have ended {text : String} (colon : text.toList.head? = some ':') :
      text.toList.takeWhile (· != ':') = [] := by
    obtain ⟨rest, chars⟩ := List.head?_eq_some_iff.mp colon
    rw [chars, List.takeWhile_cons_of_neg (by simp)]
  have chars : a.label.toList ++ r.toList = b.label.toList ++ s.toList := by
    rw [← String.toList_append, ← String.toList_append, same]
  obtain ⟨labels, rest⟩ := append_unique (apart a) (apart b) (ended hr) (ended hs) chars
  exact ⟨label_injective (String.toList_inj.mp labels), String.toList_inj.mp rest⟩

theorem Key.label_ne_empty (key : Key) : key.label ≠ "" := by
  intro empty
  have first := key.head?_label
  rw [empty] at first
  cases first

namespace Report

/-! ## Lines of numbers -/

theorem figures_depthLine (time came went depth : Nat) :
    figures (depthLine time.repr came.repr went.repr depth.repr) =
      [time.repr, came.repr, went.repr, depth.repr] := by
  simp (disch := decide) only [depthLine, String.append_assoc, figures_word_append,
    figures_append_word, figures_padStart, figures_natRepr]
  rfl

/-- A row is the numbers of its line. -/
theorem rowLine_injective {a b : Depth.Row}
    (same : depthLine a.timestamp.repr a.enqueued.repr a.dequeued.repr a.depth.repr =
      depthLine b.timestamp.repr b.enqueued.repr b.dequeued.repr b.depth.repr) : a = b := by
  cases a
  cases b
  have numbers := congrArg figures same
  simpa [figures_depthLine, Nat.repr_inj] using numbers

/-- An incarnation is the number in its text, and there is none if it is not recorded. -/
theorem figures_generationText (generation : Option Nat) :
    figures (generationText generation) = (generation.map Nat.repr).toList := by
  cases generation with
  | none => rfl
  | some id => exact figures_natRepr id

theorem figures_restartLine (restart : Restart) :
    figures (restartLine restart) =
      restart.timestamp.repr :: (restart.generation.map Nat.repr).toList := by
  unfold restartLine
  simp (disch := decide) only [String.append_assoc, figures_word_append, figures_append_word,
    figures_append_last, figures_natRepr, figures_generationText]
  rfl

theorem restartLine_injective : Function.Injective restartLine := by
  intro a b same
  have numbers := congrArg figures same
  rw [figures_restartLine, figures_restartLine, List.cons.injEq, Nat.repr_inj] at numbers
  obtain ⟨timestamp, recorded⟩ := numbers
  have generation : a.generation.map Nat.repr = b.generation.map Nat.repr := by
    simpa using congrArg List.head? recorded
  rw [(Option.map_injective fun _ _ => Nat.repr_inj.mp).eq_iff] at generation
  exact congrArg₂ Restart.mk timestamp generation

/-! ## Lines about keys -/

theorem key_of_peakLine {a b : Depth.Series} (same : peakLine a = peakLine b) : a.key = b.key := by
  have said (series : Depth.Series) :
      ∃ rest : String, peakLine series = series.key.label ++ rest ∧ rest.toList.head? = some ':' := by
    unfold peakLine
    refine ⟨_, rfl, ?_⟩
    split <;> simp
  obtain ⟨r, lineA, hr⟩ := said a
  obtain ⟨s, lineB, hs⟩ := said b
  rw [lineA, lineB] at same
  exact (Key.label_append_unique hr hs same).1

end Report

/-- What a report says of a violation: the key, the timestamp, the depth and how many rows lie before. -/
def Depth.Violation.notice (violation : Depth.Violation) : Key × Nat × Int × Nat :=
  (violation.key, violation.timestamp, violation.depth, violation.rows.length)

namespace Report

/-- The line of a violation tells its notice and nothing else. -/
theorem violationLine_eq_iff {a b : Depth.Violation} :
    violationLine a = violationLine b ↔ a.notice = b.notice := by
  constructor
  · intro same
    simp only [violationLine, String.append_assoc] at same
    obtain ⟨key, rest⟩ := Key.label_append_unique (by simp) (by simp) same
    have numbers := congrArg figures rest
    simp (disch := decide) only [figures_word_append, figures_append_word, figures_append_last,
      figures_natRepr, figures_intRepr] at numbers
    simpa [Depth.Violation.notice, key, Nat.repr_inj, and_left_comm] using numbers
  · intro same
    simp only [Depth.Violation.notice, Prod.mk.injEq] at same
    obtain ⟨key, timestamp, depth, good⟩ := same
    rw [violationLine, violationLine, key, timestamp, depth, good]

theorem violationLines_eq_iff {violations others : List Depth.Violation} :
    violations.map violationLine = others.map violationLine ↔
      violations.map Depth.Violation.notice = others.map Depth.Violation.notice := by
  induction violations generalizing others with
  | nil => cases others <;> simp
  | cons violation rest ih =>
    cases others with
    | nil => simp
    | cons other others => simp only [List.map_cons, List.cons.injEq, violationLine_eq_iff, ih]

/-! ## The head -/

/-- A line that is there for every number but zero. -/
def optionalLine (before behind : String) (n : Nat) : List String :=
  if n = 0 then [] else [before ++ n.repr ++ behind]

theorem optionalLine_injective {before behind : String} (plain : Plain before) (ended : Plain behind)
    (some : behind ≠ "") : Function.Injective (optionalLine before behind) := by
  intro m n same
  have said (n : Nat) : figures (before ++ n.repr ++ behind) = [n.repr] := by
    rw [String.append_assoc, figures_word_append plain, figures_append_last ended some,
      figures_natRepr]
  have numbers := congrArg (List.flatMap figures) same
  simp only [optionalLine] at numbers
  split at numbers <;> split at numbers <;> simp_all [Nat.repr_inj]

/-- The head tells what is said of the whole trace. The number of idle actors is told from that of the
events after the stop by the first letter of its line. -/
theorem totals_of_headLines {report other : Report} (same : report.headLines = other.headLines) :
    report.records = other.records ∧ report.timeline.start = other.timeline.start ∧
      report.timeline.finish = other.timeline.finish ∧ report.timeline.stop = other.timeline.stop ∧
      report.idleActors = other.idleActors ∧ report.afterStop = other.afterStop := by
  have idle (n : Nat) : ∀ line ∈ optionalLine "Idle:    " " actor ids with no events" n,
      (line.toList.head? == some 'I') = true := by
    unfold optionalLine
    split <;> simp
  have warning (n : Nat) : (optionalLine "Warning: " " events after stop" n).takeWhile
      (·.toList.head? == some 'I') = [] := by
    unfold optionalLine
    split <;> simp
  simp only [headLines, List.cons_append, List.nil_append, List.cons.injEq, true_and] at same
  obtain ⟨records, extent, stop, remarks⟩ := same
  obtain ⟨idles, warnings⟩ := append_unique (idle _) (idle _) (warning _) (warning _) remarks
  replace records := congrArg figures records
  replace extent := congrArg figures extent
  replace stop := congrArg figures stop
  simp (disch := decide) only [String.append_assoc, figures_word_append, figures_append_word,
    figures_append_last, figures_natRepr, List.cons_append, List.nil_append, List.cons.injEq,
    Nat.repr_inj] at records extent stop
  exact ⟨records.1, extent.1, extent.2.1, stop.1,
    optionalLine_injective (by decide) (by decide) (by decide) idles,
    optionalLine_injective (by decide) (by decide) (by decide) warnings⟩

/-! ## Tracks -/

/-- Whether a line begins with a blank. -/
def isIndented (line : String) : Bool :=
  line.toList.head? == some ' '

/-- The lines of a track below its headline. -/
def bodyLines (track : Track) : List String :=
  rowLines track.series ++ track.restarts.map restartLine

theorem trackLines_eq (track : Track) :
    trackLines track = peakLine track.series :: bodyLines track :=
  rfl

theorem isIndented_peakLine (series : Depth.Series) : isIndented (peakLine series) = false := by
  have first := series.key.head?_label
  rw [isIndented, peakLine, String.toList_append, List.head?_append, first]
  cases series.key <;> rfl

theorem isIndented_of_mem_bodyLines {track : Track} :
    ∀ line ∈ bodyLines track, isIndented line = true := by
  rw [bodyLines, List.forall_mem_append]
  constructor
  · unfold rowLines
    split <;> simp [isIndented, depthLine]
  · rw [List.forall_mem_map]
    intro restart _
    unfold restartLine
    simp [isIndented]

theorem tail_rowLines (series : Depth.Series) :
    (rowLines series).tail = series.rows.map fun row =>
      depthLine row.timestamp.repr row.enqueued.repr row.dequeued.repr row.depth.repr := by
  unfold rowLines
  split
  case isTrue none => simp [List.isEmpty_iff.mp none]
  case isFalse => rfl

/-- No word in the table of a series has the letter that begins a restart. -/
theorem within_rowLines {series : Depth.Series} :
    ∀ line ∈ rowLines series, Within (· != 'r') line := by
  have number (n : Nat) : Within (· != 'r') n.repr := within_ne_natRepr rfl n
  have blanks : Within (· != 'r') "  " ∧ Within (· != 'r') " " := by decide
  unfold rowLines
  split
  · simp
  · rw [List.forall_mem_cons, List.forall_mem_map]
    refine ⟨by decide, ?_⟩
    intro row _
    simp [depthLine, within_padStart, number, blanks]

theorem takeWhile_restartLines (restarts : List Restart) :
    (restarts.map restartLine).takeWhile (fun line => decide (Within (· != 'r') line)) = [] := by
  cases restarts with
  | nil => rfl
  | cons restart rest =>
    have word : ¬ Within (· != 'r') "  restart at " := by decide
    have marked : ¬ Within (· != 'r') (restartLine restart) := by
      unfold restartLine
      simp [word]
    simp [marked]

theorem body_unique {a b : Track} (same : bodyLines a = bodyLines b) :
    a.rows = b.rows ∧ a.restarts = b.restarts := by
  have apart {series : Depth.Series} : ∀ line ∈ rowLines series,
      decide (Within (· != 'r') line) = true :=
    fun line member => decide_eq_true (within_rowLines line member)
  obtain ⟨rows, restarts⟩ := append_unique apart apart (takeWhile_restartLines a.restarts)
    (takeWhile_restartLines b.restarts) same
  have tables := congrArg List.tail rows
  rw [tail_rowLines, tail_rowLines] at tables
  exact ⟨List.map_injective_iff.mpr (fun _ _ => rowLine_injective) tables,
    List.map_injective_iff.mpr restartLine_injective restarts⟩

theorem takeWhile_trackLines (tracks : List Track) :
    (tracks.flatMap trackLines).takeWhile isIndented = [] := by
  cases tracks with
  | nil => rfl
  | cons track rest => simp [trackLines_eq, isIndented_peakLine]

/-- A track begins at each line that is not indented. -/
theorem tracks_of_trackLines {tracks others : List Track}
    (same : tracks.flatMap trackLines = others.flatMap trackLines) : tracks = others := by
  induction tracks generalizing others with
  | nil =>
    cases others with
    | nil => rfl
    | cons other others => simp [trackLines_eq] at same
  | cons track tracks ih =>
    cases others with
    | nil => simp [trackLines_eq] at same
    | cons other others =>
      simp only [List.flatMap_cons, trackLines_eq, List.cons_append, List.cons.injEq] at same
      obtain ⟨peak, below⟩ := same
      obtain ⟨body, rest⟩ := append_unique isIndented_of_mem_bodyLines isIndented_of_mem_bodyLines
        (takeWhile_trackLines tracks) (takeWhile_trackLines others) below
      obtain ⟨rows, restarts⟩ := body_unique body
      have series : track.series = other.series :=
        congrArg₂ Depth.Series.mk (key_of_peakLine peak) rows
      have first : track = other := congrArg₂ Track.mk series restarts
      rw [first, ih rest]

end Report

end QueueDepth
