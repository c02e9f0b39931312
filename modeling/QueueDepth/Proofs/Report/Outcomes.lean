import QueueDepth.Proofs.Depth.Curve
import QueueDepth.Proofs.Trace.Grouping
import QueueDepth.Report

/-!
# The keys of a report

A report asks for the outcome of each selected key once, in key order, and sorts what it gets into
tracks and violations. Nothing is lost or doubled on the way, because every outcome bears the key it
was asked for and the keys ascend strictly.

* `Selection.mem_keys_iff`, `Selection.ascending_keys`: which keys are asked for.
* `Report.ofTrace_eq`: a report without its steps.
* `Report.track?_made`, `Report.violations_made`: what a report says of one key.
-/

namespace QueueDepth

/-! ## Lists that bear their labels -/

section Labelled

variable {κ β : Type} [DecidableEq κ] {label : β → κ} {find : κ → Option β} {labels : List κ}

omit [DecidableEq κ] in
/-- What is found for the labels bears the labels for which something is found. -/
theorem map_label_filterMap (bears : ∀ k b, find k = some b → label b = k) :
    (labels.filterMap find).map label = labels.filter fun k => (find k).isSome := by
  induction labels with
  | nil => rfl
  | cons k rest ih =>
    cases found : find k with
    | none => simp [found, ih]
    | some b => simp [found, bears k b found, ih]

theorem find?_label_filterMap (bears : ∀ k b, find k = some b → label b = k) (key : κ) :
    (labels.filterMap find).find? (fun b => label b = key) =
      if key ∈ labels then find key else none := by
  induction labels with
  | nil => rfl
  | cons k rest ih =>
    by_cases same : k = key
    · subst same
      cases found : find k with
      | none =>
        rw [List.filterMap_cons_none found, ih, found]
        simp
      | some b => simp [found, bears k b found]
    · have skip : (List.filterMap find (k :: rest)).find? (fun b => label b = key) =
          (rest.filterMap find).find? (fun b => label b = key) := by
        cases found : find k with
        | none => simp [found]
        | some b => simp [found, bears k b found, same]
      rw [skip, ih]
      simp [Ne.symm same]

theorem filter_label_filterMap (bears : ∀ k b, find k = some b → label b = k)
    (distinct : labels.Nodup) (key : κ) :
    (labels.filterMap find).filter (fun b => label b = key) =
      if key ∈ labels then (find key).toList else [] := by
  induction labels with
  | nil => rfl
  | cons k rest ih =>
    obtain ⟨fresh, later⟩ := List.nodup_cons.mp distinct
    have rest_eq := ih later
    by_cases same : k = key
    · subst same
      rw [if_neg fresh] at rest_eq
      cases found : find k with
      | none => simp [found, rest_eq]
      | some b => simp [found, bears k b found, rest_eq]
    · have skip : (List.filterMap find (k :: rest)).filter (fun b => label b = key) =
          (rest.filterMap find).filter (fun b => label b = key) := by
        cases found : find k with
        | none => simp [found]
        | some b => simp [found, bears k b found, same]
      rw [skip, rest_eq]
      simp [Ne.symm same]

end Labelled

/-! ## The selected keys -/

theorem Key.compare_actor (a b : Nat) : compare (Key.actor a) (Key.actor b) = compare a b := by
  change (compare 0 0 : Ordering).then (compare a b) = compare a b
  rfl

namespace Selection

/-- The keys a selection is about, given the events of a trace: the pool and the actors it names, or
all that own an event. -/
def Covers (selection : Selection) (events : List Event) : Key → Prop
  | .actor id =>
    match selection with
    | all => ∃ event ∈ events, event.scope = .actor id
    | only ids => id ∈ ids
  | .pool => True
  | .system => False

variable {selection : Selection} {events : List Event}

theorem mem_actors_iff {id : Nat} :
    id ∈ selection.actors (.ofEvents events) ↔ selection.Covers events (.actor id) := by
  cases selection with
  | all => exact Grouping.mem_actorIds_ofEvents
  | only ids => exact mem_ascending

theorem mem_keys_iff {key : Key} :
    key ∈ selection.keys (.ofEvents events) ↔ selection.Covers events key := by
  rw [keys, List.mem_append, List.mem_map, List.mem_singleton]
  cases key with
  | actor id => simp [mem_actors_iff]
  | pool => simp [Covers]
  | system => simp [Covers]

/-- What a selection covers does not depend on the order of the events. -/
theorem covers_perm {others : List Event} (perm : events.Perm others) {key : Key} :
    selection.Covers events key ↔ selection.Covers others key := by
  cases key with
  | actor id =>
    cases selection with
    | all =>
      apply exists_congr
      intro event
      rw [perm.mem_iff]
    | only ids => rfl
  | pool => rfl
  | system => rfl

theorem ascending_actors {grouping : Grouping} : Ascending (selection.actors grouping) := by
  cases selection with
  | all => exact Grouping.ascending_actorIds
  | only ids => exact ascending_ascending ids

/-- Every selected key is asked for once, in key order. -/
theorem ascending_keys {grouping : Grouping} : Ascending (selection.keys grouping) := by
  refine List.pairwise_append.mpr ⟨?_, List.pairwise_singleton _ _, ?_⟩
  · rw [List.pairwise_map]
    apply ascending_actors.imp
    intro a b order
    rw [Key.compare_actor]
    exact order
  · intro a member b last
    obtain ⟨id, _, rfl⟩ := List.mem_map.mp member
    rw [List.mem_singleton.mp last]
    rfl

end Selection

namespace Report

/-! ## One key -/

/-- The outcome of a key in a trace. -/
def outcomeOf (trace : Trace) (key : Key) : Depth.Outcome :=
  Depth.outcome key ((Grouping.ofEvents trace.events).traffic key)

/-- The track of a key, if it has no violation. -/
def trackFor (trace : Trace) (key : Key) : Option Track :=
  (outcomeOf trace key).toOption.map (trackOf (.ofEvents trace.events))

/-- The violation of a key, if it has one. -/
def violationFor (trace : Trace) (key : Key) : Option Depth.Violation :=
  violation? (outcomeOf trace key)

variable {trace : Trace} {selection : Selection} {key : Key}

theorem inOrder_traffic (trace : Trace) (key : Key) :
    Depth.InOrder ((Grouping.ofEvents trace.events).traffic key) := by
  rw [Grouping.traffic_ofEvents]
  exact trace.sorted.filter _

@[simp]
theorem series_trackOf (grouping : Grouping) (series : Depth.Series) :
    (trackOf grouping series).series = series := by
  rw [trackOf]
  split <;> rfl

theorem key_trackOf (grouping : Grouping) (series : Depth.Series) :
    (trackOf grouping series).key = series.key :=
  congrArg Depth.Series.key (series_trackOf grouping series)

theorem rows_trackOf (grouping : Grouping) (series : Depth.Series) :
    (trackOf grouping series).rows = series.rows :=
  congrArg Depth.Series.rows (series_trackOf grouping series)

theorem key_outcomeOf (trace : Trace) (key : Key) : (outcomeOf trace key).key = key :=
  Depth.key_outcome key (inOrder_traffic trace key)

theorem trackFor_eq_some_iff {track : Track} :
    trackFor trace key = some track ↔
      ∃ series, outcomeOf trace key = .ok series ∧ trackOf (.ofEvents trace.events) series = track := by
  rw [trackFor, Option.map_eq_some_iff]
  cases outcomeOf trace key <;> simp [Except.toOption]

theorem violationFor_eq_some_iff {violation : Depth.Violation} :
    violationFor trace key = some violation ↔ outcomeOf trace key = .error violation := by
  rw [violationFor]
  cases outcomeOf trace key <;> simp [violation?]

theorem key_of_trackFor {track : Track} (found : trackFor trace key = some track) :
    track.key = key := by
  obtain ⟨series, clean, rfl⟩ := trackFor_eq_some_iff.mp found
  have bears := key_outcomeOf trace key
  rw [clean] at bears
  exact (key_trackOf _ series).trans bears

theorem key_of_violationFor {violation : Depth.Violation}
    (found : violationFor trace key = some violation) : violation.key = key := by
  have bears := key_outcomeOf trace key
  rw [violationFor_eq_some_iff.mp found] at bears
  exact bears

/-- A key has a track or a violation, and never both. -/
theorem isSome_trackFor : (trackFor trace key).isSome = (violationFor trace key).isNone := by
  rw [trackFor, violationFor, Option.isSome_map]
  cases outcomeOf trace key <;> rfl

/-! ## The whole report -/

/-- When a trace stops. -/
def stopTimes (trace : Trace) : List Nat :=
  (trace.events.filter fun event => event.kind = .stopSystem).map Event.timestamp

/-- Stops are listed in the order of the trace. -/
theorem pairwise_stopTimes : (stopTimes trace).Pairwise (· ≤ ·) :=
  List.pairwise_map.mpr (trace.sorted.filter _)

/-- The tracks of the selected keys, in key order. -/
def tracks (trace : Trace) (selection : Selection) : List Track :=
  (selection.keys (.ofEvents trace.events)).filterMap (trackFor trace)

/-- The report of a trace that stops at `stop`. -/
def made (trace : Trace) (selection : Selection) (stop : Nat) : Report where
  records := trace.size
  timeline := {
    stop
    start := ((tracks trace selection).flatMap Track.instants).foldl min stop
    finish := ((tracks trace selection).flatMap Track.instants).foldl max stop
    tracks := tracks trace selection }
  violations := (selection.keys (.ofEvents trace.events)).filterMap (violationFor trace)
  afterStop := trace.events.countP fun event => stop < event.timestamp
  idleActors := selection.idle (.ofEvents trace.events)
  counts := .ofEvents trace.events

theorem map_key_tracks :
    (tracks trace selection).map Track.key =
      (selection.keys (.ofEvents trace.events)).filter fun key => (trackFor trace key).isSome :=
  map_label_filterMap fun _ _ found => key_of_trackFor found

theorem ascending_map_key_tracks : Ascending ((tracks trace selection).map Track.key) := by
  rw [map_key_tracks]
  exact Selection.ascending_keys.filter _

/-- The tracks come in key order already, and sorting them changes nothing. -/
theorem mergeSort_tracks :
    (tracks trace selection).mergeSort (fun a b => (compare a.key b.key).isLE) =
      tracks trace selection := by
  apply List.mergeSort_of_pairwise
  apply (List.pairwise_map.mp ascending_map_key_tracks).imp
  intro a b order
  rw [order]
  rfl

theorem ofTracks_tracks (stops : List Nat) :
    Timeline.ofTracks (tracks trace selection) stops =
      (onlyStop stops).map fun stop => (made trace selection stop).timeline := by
  rw [Timeline.ofTracks, mergeSort_tracks]
  cases onlyStop stops <;> rfl

theorem seriesOf_outcomes :
    (seriesOf (outcomes (.ofEvents trace.events) selection)).map (trackOf (.ofEvents trace.events)) =
      tracks trace selection := by
  rw [seriesOf, outcomes, List.filterMap_map, List.map_filterMap]
  rfl

/-- A report is made exactly if the trace has a single stop. -/
theorem ofTrace_eq :
    ofTrace trace selection = (onlyStop (stopTimes trace)).map (made trace selection) := by
  have stops_eq : (Grouping.ofEvents trace.events).stops.map Event.timestamp = stopTimes trace := by
    rw [Grouping.stops_ofEvents, stopTimes]
  have violations_eq : (outcomes (.ofEvents trace.events) selection).filterMap violation? =
      (selection.keys (.ofEvents trace.events)).filterMap (violationFor trace) := by
    rw [outcomes, List.filterMap_map]
    rfl
  simp only [ofTrace, stops_eq, seriesOf_outcomes, ofTracks_tracks, violations_eq]
  cases onlyStop (stopTimes trace) <;> rfl

theorem ofTrace_eq_ok {stop : Nat} (single : stopTimes trace = [stop]) :
    ofTrace trace selection = .ok (made trace selection stop) := by
  rw [ofTrace_eq, single]
  rfl

/-- A report comes from a trace with a single stop. -/
theorem of_ofTrace_eq_ok {report : Report} (ok : ofTrace trace selection = .ok report) :
    ∃ stop, stopTimes trace = [stop] ∧ report = made trace selection stop := by
  rw [ofTrace_eq] at ok
  match times : stopTimes trace with
  | [] =>
    rw [times] at ok
    cases ok
  | [stop] =>
    rw [times] at ok
    cases ok
    exact ⟨stop, rfl, rfl⟩
  | first :: second :: more =>
    rw [times] at ok
    cases ok

/-! ## What a report says of one key -/

variable {stop : Nat}

theorem track?_made (key : Key) :
    (made trace selection stop).timeline.track? key =
      if key ∈ selection.keys (.ofEvents trace.events) then trackFor trace key else none :=
  find?_label_filterMap (fun _ _ found => key_of_trackFor found) key

/-- The tracks of a report are those of the selected keys. -/
theorem mem_tracks_made_iff {track : Track} :
    track ∈ (made trace selection stop).timeline.tracks ↔
      track.key ∈ selection.keys (.ofEvents trace.events) ∧ trackFor trace track.key = some track := by
  change track ∈ tracks trace selection ↔ _
  rw [tracks, List.mem_filterMap]
  constructor
  · rintro ⟨key, selected, found⟩
    rw [key_of_trackFor found]
    exact ⟨selected, found⟩
  · rintro ⟨selected, found⟩
    exact ⟨track.key, selected, found⟩

theorem mem_violations_made_iff {violation : Depth.Violation} :
    violation ∈ (made trace selection stop).violations ↔
      violation.key ∈ selection.keys (.ofEvents trace.events) ∧
        violationFor trace violation.key = some violation := by
  change violation ∈ List.filterMap _ _ ↔ _
  rw [List.mem_filterMap]
  constructor
  · rintro ⟨key, selected, found⟩
    rw [key_of_violationFor found]
    exact ⟨selected, found⟩
  · rintro ⟨selected, found⟩
    exact ⟨violation.key, selected, found⟩

theorem violations_made (key : Key) :
    (made trace selection stop).violations.filter (fun violation => violation.key = key) =
      if key ∈ selection.keys (.ofEvents trace.events) then (violationFor trace key).toList else [] :=
  filter_label_filterMap (fun _ _ found => key_of_violationFor found)
    Selection.ascending_keys.nodup key

end Report

end QueueDepth
