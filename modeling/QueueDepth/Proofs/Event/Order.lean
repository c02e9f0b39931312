import QueueDepth.EventCounts
import QueueDepth.Proofs.Text.ByteOrder

/-!
# The order of keys and kinds

Keys, kinds and the cells they make up are compared by numbers and texts that stand for them. `Before`
is the order that this brings about, in the words of the vocabulary: no rank and no slot appears in it.

* `Key.compare_eq_lt_iff`, `Kind.compare_eq_lt_iff`, `Cell.compare_eq_lt_iff`: `compare` answers `lt` for
  what stands before.
-/

namespace QueueDepth

/-- Of two items compared first by one of their parts and then by another, the lesser one is lesser in the
first part, or agrees there and is lesser in the second. -/
theorem compareLex_eq_lt_iff {α β γ : Type} [Ord β] [Ord γ] [Std.LawfulEqOrd β] {first : α → β}
    {second : α → γ} {a b : α} :
    compareLex (compareOn first) (compareOn second) a b = .lt ↔
      compare (first a) (first b) = .lt ∨
        first a = first b ∧ compare (second a) (second b) = .lt := by
  rw [compareLex, Ordering.then_eq_lt, compareOn, compareOn, Std.LawfulEqOrd.compare_eq_iff_eq]

namespace Key

/-- Actors stand by slot number, then the pool, then the system. -/
inductive Before : Key → Key → Prop
  | actors {id other : Nat} (below : id < other) : Before (.actor id) (.actor other)
  | actorPool (id : Nat) : Before (.actor id) .pool
  | actorSystem (id : Nat) : Before (.actor id) .system
  | poolSystem : Before .pool .system

theorem compare_eq_lt_iff {key other : Key} : compare key other = .lt ↔ key.Before other := by
  have unfolded : compare key other = .lt ↔
      key.group < other.group ∨ key.group = other.group ∧ key.slot < other.slot := by
    change compareLex (compareOn group) (compareOn slot) key other = .lt ↔ _
    rw [compareLex_eq_lt_iff, Nat.compare_eq_lt, Nat.compare_eq_lt]
  rw [unfolded]
  constructor
  · intro below
    cases key with
    | actor id =>
      cases other with
      | actor next => exact .actors (by simpa [group, slot] using below)
      | pool => exact .actorPool id
      | system => exact .actorSystem id
    | pool =>
      cases other with
      | system => exact .poolSystem
      | _ => simp [group, slot] at below
    | system => cases other <;> simp [group, slot] at below
  · intro before
    cases before with
    | actors below => exact .inr ⟨rfl, below⟩
    | actorPool id => exact .inl Nat.zero_lt_one
    | actorSystem id => exact .inl Nat.zero_lt_two
    | poolSystem => exact .inl Nat.one_lt_two

end Key

namespace Kind

/-- Kinds of the vocabulary stand in its order, then the unknown names in the order of their bytes. -/
inductive Before : Kind → Kind → Prop
  | known {place next : Nat} {kind other : Kind} (below : place < next)
    (here : vocabulary[place]? = some kind) (there : vocabulary[next]? = some other) :
    Before kind other
  | unknown {kind : Kind} (member : kind ∈ vocabulary) (name : String) : Before kind (.other name)
  | names {name next : String}
    (below : Text.Utf8.encode name.toList < Text.Utf8.encode next.toList) :
    Before (.other name) (.other next)

theorem mem_vocabulary_or_other (kind : Kind) : kind ∈ vocabulary ∨ ∃ name, kind = .other name := by
  cases kind with
  | other name => exact .inr ⟨name, rfl⟩
  | _ => exact .inl (by decide)

/-- The rank of a kind of the vocabulary is its place there. -/
theorem getElem?_rank : ∀ kind ∈ vocabulary, vocabulary[kind.rank]? = some kind := by
  decide

theorem rank_of_getElem? {kind : Kind} {place : Nat} (here : vocabulary[place]? = some kind) :
    kind.rank = place := by
  have ranks : vocabulary.map rank = List.range 11 := by decide
  have ranked : (List.range 11)[place]? = some kind.rank := by
    rw [← ranks, List.getElem?_map, here]
    rfl
  obtain ⟨_, same⟩ := List.getElem?_eq_some_iff.mp ranked
  rw [← same, List.getElem_range]

/-- Unknown names have the last rank. -/
theorem rank_lt_of_mem (name : String) : ∀ kind ∈ vocabulary, kind.rank < (other name).rank := by
  change ∀ kind ∈ vocabulary, kind.rank < 11
  decide

theorem compare_eq_lt_iff {kind next : Kind} : compare kind next = .lt ↔ kind.Before next := by
  have unfolded : compare kind next = .lt ↔
      kind.rank < next.rank ∨ kind.rank = next.rank ∧
        Text.Utf8.encode kind.name.toList < Text.Utf8.encode next.name.toList := by
    have texts : compare kind.name next.name = .lt ↔ kind.name < next.name :=
      compareOfLessAndEq_eq_lt
    change compareLex (compareOn rank) (compareOn name) kind next = .lt ↔ _
    rw [compareLex_eq_lt_iff, Nat.compare_eq_lt, texts, Text.Utf8.encode_lt_encode_iff, String.lt_iff]
  rw [unfolded]
  constructor
  · intro below
    rcases kind.mem_vocabulary_or_other with known | ⟨name, rfl⟩
    · rcases next.mem_vocabulary_or_other with nextKnown | ⟨other, rfl⟩
      · rcases below with lower | ⟨level, text⟩
        · exact .known lower (getElem?_rank kind known) (getElem?_rank next nextKnown)
        · have place := getElem?_rank kind known
          rw [level, getElem?_rank next nextKnown] at place
          cases place
          exact absurd text (List.lt_irrefl _)
      · exact .unknown known other
    · rcases next.mem_vocabulary_or_other with nextKnown | ⟨other, rfl⟩
      · have above := rank_lt_of_mem name next nextKnown
        omega
      · rcases below with lower | ⟨_, text⟩
        · exact absurd lower (Nat.lt_irrefl _)
        · exact .names text
  · intro before
    cases before with
    | known below here there =>
      rw [rank_of_getElem? here, rank_of_getElem? there]
      exact .inl below
    | unknown member name => exact .inl (rank_lt_of_mem name _ member)
    | names below => exact .inr ⟨rfl, below⟩

end Kind

namespace Cell

/-- Cells stand by key, and those of one key by kind. -/
inductive Before : Cell → Cell → Prop
  | keys {cell other : Cell} (before : cell.key.Before other.key) : Before cell other
  | kinds {cell other : Cell} (same : cell.key = other.key) (before : cell.kind.Before other.kind) :
    Before cell other

theorem compare_eq_lt_iff {cell other : Cell} : compare cell other = .lt ↔ cell.Before other := by
  have unfolded : compare cell other = .lt ↔
      cell.key.Before other.key ∨ cell.key = other.key ∧ cell.kind.Before other.kind := by
    change compareLex (compareOn key) (compareOn kind) cell other = .lt ↔ _
    rw [compareLex_eq_lt_iff, Key.compare_eq_lt_iff, Kind.compare_eq_lt_iff]
  rw [unfolded]
  constructor
  · rintro (before | ⟨same, before⟩)
    · exact .keys before
    · exact .kinds same before
  · intro before
    cases before with
    | keys before => exact .inl before
    | kinds same before => exact .inr ⟨same, before⟩

end Cell

end QueueDepth
