import QueueDepth.Proofs.Command.Run
import QueueDepth.Proofs.Toml.Reading
import QueueDepth.Proofs.Toml.Roots

/-!
# Ways to write settings

A user settles some things and not others. What is settled can be written as a document in any order and
layout, and is read back from it together with the defaults for the rest. A document in which a statement
begins at any other top-level key is rejected (`Settings.load_of_document`).
-/

namespace QueueDepth

open Text (Placed)

/-- One thing that a user may settle. -/
inductive Setting where
  | actors (ids : List Nat)
  | format (format : Format)
  | onViolation (policy : Policy)

namespace Setting

/-- The key that a setting is written under. -/
def key : Setting → String
  | actors _ => "actors"
  | format _ => "format"
  | onViolation _ => "on-violation"

/-- The texts that the value of a setting can be written as. -/
inductive Shows : Setting → List Char → Prop where
  | actors {ids : List Nat} {text : List Char} :
    Toml.WrittenItems Toml.WrittenNumber ids text → Shows (.actors ids) ('[' :: text)
  | format {format : Format} {text : List Char} :
    Toml.WrittenString format.name.toList text → Shows (.format format) text
  | onViolation {policy : Policy} {text : List Char} :
    Toml.WrittenString policy.name.toList text → Shows (.onViolation policy) text

/-- The texts that a setting can be written as. -/
def Written (setting : Setting) : List Char → Prop :=
  Toml.WrittenPair setting.key.toList setting.Shows

/-- The ids of a setting are integers of 64 bits with a sign. -/
def Fits : Setting → Prop
  | actors ids => ∀ id ∈ ids, id < 2 ^ 63
  | _ => True

end Setting

/-- What a user settles and what not. -/
structure Settings.Chosen where
  actors : Option (List Nat)
  format : Option Format
  onViolation : Option Policy

namespace Settings.Chosen

/-- All that is settled. -/
def list (chosen : Chosen) : List Setting :=
  (chosen.actors.map .actors).toList ++ (chosen.format.map .format).toList ++
    (chosen.onViolation.map .onViolation).toList

/-- What is settled, and the defaults for the rest. -/
def settings (chosen : Chosen) : Settings where
  actors := chosen.actors
  format := chosen.format.getD .text
  onViolation := chosen.onViolation.getD .report

end Settings.Chosen

/-! ## Reading -/

namespace Setting

/-- What the value of a setting means. -/
def Means : Setting → Toml.Value → Prop
  | actors ids, value =>
    ∃ items : List (Placed Toml.Value), value = .array items ∧
      List.Forall₂ (fun id item => item.item = .integer id) ids items
  | format chosen, value => value = .text chosen.name.toList
  | onViolation policy, value => value = .text policy.name.toList

theorem Shows.reads {setting : Setting} {text : List Char} (shows : setting.Shows text) :
    Toml.Reads Toml.value text setting.Means := by
  cases shows with
  | actors array =>
    have starts (id : Nat) (text : List Char) (number : Toml.WrittenNumber id text) : Toml.Starts text :=
      number.starts
    have reads (id : Nat) (text : List Char) (number : Toml.WrittenNumber id text) :
        Toml.Reads (Toml.valueWithin (Toml.depthLimit - 1)) text (· = .integer id) :=
      Toml.reads_number number _
    exact Toml.reads_array starts reads array
  | format string => exact Toml.reads_string string Toml.depthLimit
  | onViolation string => exact Toml.reads_string string Toml.depthLimit

theorem Shows.solid {setting : Setting} {text : List Char} (shows : setting.Shows text) :
    ∃ c more, text = c :: more ∧ Toml.isBlank c = false := by
  cases shows with
  | actors _ => exact ⟨_, _, rfl, rfl⟩
  | format string => exact string.solid
  | onViolation string => exact string.solid

theorem Shows.keepsReturns {setting : Setting} {text : List Char} (shows : setting.Shows text) :
    Toml.KeepsReturns text := by
  cases shows with
  | actors array =>
    exact .cons (by decide) (array.keepsReturns fun _ _ number => number.keepsReturns)
  | format string => exact string.keepsReturns
  | onViolation string => exact string.keepsReturns

end Setting

namespace Settings

/-- Settings with one more thing settled. -/
def settle (settings : Settings) : Setting → Settings
  | .actors ids => { settings with actors := some ids }
  | .format format => { settings with format }
  | .onViolation onViolation => { settings with onViolation }

theorem readActor_eq_ok {value : Placed Toml.Value} {id : Nat} (meant : value.item = .integer id)
    (small : id < 2 ^ 63) : readActor value = .ok id := by
  have unsigned : (0 : Int) ≤ id ∧ (id : Int) < Number.unsignedBound := by
    have bound : (2 : Nat) ^ 63 < Number.unsignedBound := by decide
    omega
  unfold readActor
  rw [meant]
  simp only [if_pos unsigned, Int.toNat_natCast]

theorem readActors_eq_ok {value : Placed Toml.Value} {ids : List Nat}
    (meant : (Setting.actors ids).Means value.item) (small : ∀ id ∈ ids, id < 2 ^ 63) :
    readActors value = .ok ids := by
  obtain ⟨items, array, meanings⟩ := meant
  have read : items.mapM readActor = .ok ids := by
    rw [mapM_eq_ok_iff]
    clear array
    induction meanings with
    | nil => exact .nil
    | cons here _ ih =>
      obtain ⟨bounded, later⟩ := List.forall_mem_cons.mp small
      exact .cons (readActor_eq_ok here bounded) (ih later)
  unfold readActors
  rw [array]
  exact read

/-- A name among a few is read as what it stands for. -/
theorem readName_eq_ok {α : Type} {choices : List (String × α)} {value : Placed Toml.Value}
    {name : String} {choice : α} (meant : value.item = .text name.toList)
    (found : choices.find? (·.1.toList = name.toList) = some (name, choice)) :
    readName choices value = .ok choice := by
  unfold readName
  rw [meant]
  simp only [findName, found]

theorem readField_eq_ok {settings : Settings} {setting : Setting} {field : Toml.Field}
    (fits : setting.Fits) (named : field.1.item = setting.key.toList)
    (meant : setting.Means field.2.item) :
    readField settings field = .ok (settings.settle setting) := by
  obtain ⟨key, value⟩ := field
  unfold readField
  cases setting with
  | actors ids =>
    have here : key.item = "actors".toList := named
    simp only [if_pos here, readActors_eq_ok meant fits]
    rfl
  | format chosen =>
    have here : key.item = "format".toList := named
    have other : "format".toList ≠ "actors".toList := by decide
    have read : readName (Format.formats.map fun format => (format.name, format)) value = .ok chosen :=
      readName_eq_ok meant (by cases chosen <;> decide)
    simp only [here, if_neg other, read]
    rfl
  | onViolation policy =>
    have here : key.item = "on-violation".toList := named
    have other : "on-violation".toList ≠ "actors".toList := by decide
    have other' : "on-violation".toList ≠ "format".toList := by decide
    have read : readName (Policy.policies.map fun policy => (policy.name, policy)) value = .ok policy :=
      readName_eq_ok meant (by cases policy <;> decide)
    simp only [here, if_neg other, if_neg other', read]
    rfl

/-- Fields are read one by one. -/
theorem foldlM_readField {settings : Settings} {list : List Setting} {fields : Toml.Fields}
    (fits : ∀ setting ∈ list, setting.Fits)
    (meant : List.Forall₂ (fun setting (field : Toml.Field) =>
      field.1.item = setting.key.toList ∧ setting.Means field.2.item) list fields) :
    fields.foldlM readField settings = .ok (list.foldl settle settings) := by
  induction meant generalizing settings with
  | nil => rfl
  | cons here _ ih =>
    obtain ⟨fit, later⟩ := List.forall_mem_cons.mp fits
    rw [List.foldlM_cons, readField_eq_ok fit here.1 here.2]
    exact ih later

end Settings

namespace Settings.Chosen

variable {chosen : Chosen} {order : List Setting}

theorem nodup_keys : (chosen.list.map Setting.key).Nodup := by
  obtain ⟨actors, format, onViolation⟩ := chosen
  cases actors <;> cases format <;> cases onViolation <;> simp +decide [list, Setting.key]

@[simp]
theorem actors_mem_list {ids : List Nat} : .actors ids ∈ chosen.list ↔ chosen.actors = some ids := by
  simp [list]

@[simp]
theorem format_mem_list {format : Format} : .format format ∈ chosen.list ↔ chosen.format = some format := by
  simp [list]

@[simp]
theorem onViolation_mem_list {policy : Policy} :
    .onViolation policy ∈ chosen.list ↔ chosen.onViolation = some policy := by
  simp [list]

/-- Two settings that are chosen may be settled in either order: under one key they are the same, and
under two they do not concern each other. -/
theorem settle_comm {setting other : Setting} (member : setting ∈ chosen.list)
    (member' : other ∈ chosen.list) (settings : Settings) :
    (settings.settle setting).settle other = (settings.settle other).settle setting := by
  cases setting with
  | actors ids =>
    cases other with
    | actors ids' =>
      rw [actors_mem_list] at member member'
      rw [Option.some.inj (member.symm.trans member')]
    | _ => rfl
  | format format =>
    cases other with
    | format format' =>
      rw [format_mem_list] at member member'
      rw [Option.some.inj (member.symm.trans member')]
    | _ => rfl
  | onViolation policy =>
    cases other with
    | onViolation policy' =>
      rw [onViolation_mem_list] at member member'
      rw [Option.some.inj (member.symm.trans member')]
    | _ => rfl

/-- Whatever is settled first, the same is settled in the end. -/
theorem foldl_settle (rearranged : order.Perm chosen.list) :
    order.foldl settle {} = chosen.settings := by
  have commute : ∀ setting ∈ order, ∀ other ∈ order, ∀ settings : Settings,
      (settings.settle setting).settle other = (settings.settle other).settle setting :=
    fun _ member _ member' => settle_comm (rearranged.mem_iff.mp member) (rearranged.mem_iff.mp member')
  rw [rearranged.foldl_eq' commute]
  obtain ⟨actors, format, onViolation⟩ := chosen
  cases actors <;> cases format <;> cases onViolation <;> rfl

end Settings.Chosen

namespace Settings

/-- Settings are read back from every layout of a document. -/
theorem ofToml_written {chosen : Chosen} {order : List Setting} {text : List Char}
    (rearranged : order.Perm chosen.list) (fits : ∀ setting ∈ order, setting.Fits)
    (written : Toml.WrittenDocument Setting.Written order text) :
    ofToml text = .ok chosen.settings := by
  have distinct : (order.map fun setting => setting.key.toList).Nodup := by
    have keys := (rearranged.map Setting.key).nodup_iff.mpr Chosen.nodup_keys
    have texts := keys.map (fun _ _ => String.toList_inj.mp : Function.Injective String.toList)
    rwa [List.map_map] at texts
  obtain ⟨fields, document, meant⟩ := Toml.document_written (fun _ _ shows => shows.solid)
    (fun _ _ shows => shows.keepsReturns) (fun _ _ shows => shows.reads) distinct written
  have read : ofFields fields = .ok chosen.settings := by
    rw [ofFields, foldlM_readField fits meant, Chosen.foldl_settle rearranged]
  rw [ofToml, document]
  simp only [read]
  rfl

/-! ## Foreign keys -/

/-- A field of another name is rejected, whatever its value is. -/
theorem readField_of_foreign {settings : Settings} {field : Toml.Field}
    (foreign : String.ofList field.1.item ∉ fieldNames) :
    readField settings field = .error ⟨field.1.place, .unknownField field.1.item⟩ := by
  obtain ⟨key, value⟩ := field
  have other {name : String} (known : name ∈ fieldNames) : key.item ≠ name.toList := by
    intro same
    rw [same, String.ofList_toList] at foreign
    exact foreign known
  unfold readField
  simp only [if_neg (other (by decide : "actors" ∈ fieldNames)),
    if_neg (other (by decide : "format" ∈ fieldNames)),
    if_neg (other (by decide : "on-violation" ∈ fieldNames))]

/-- Reading stops at a field of another name, if not before. -/
theorem foldlM_readField_of_foreign {settings : Settings} {fields : Toml.Fields}
    (foreign : ∃ name ∈ fields.names, String.ofList name ∉ fieldNames) :
    ∃ mismatch, fields.foldlM readField settings = .error mismatch := by
  induction fields generalizing settings with
  | nil =>
    obtain ⟨_, member, _⟩ := foreign
    cases member
  | cons field rest ih =>
    rw [List.foldlM_cons]
    by_cases known : String.ofList field.1.item ∈ fieldNames
    · have later : ∃ name ∈ Toml.Fields.names rest, String.ofList name ∉ fieldNames := by
        obtain ⟨name, member, foreign⟩ := foreign
        rcases List.mem_cons.mp member with rfl | member
        · exact absurd known foreign
        · exact ⟨name, member, foreign⟩
      cases readField settings field with
      | error mismatch => exact ⟨mismatch, rfl⟩
      | ok next => exact ih later
    · rw [readField_of_foreign known]
      exact ⟨_, rfl⟩

/-- A text is rejected if it holds no statements, or if one of them begins at a key of no field. -/
theorem ofToml_of_foreign {text : List Char}
    (foreign : ∀ statements, Toml.statements text = some statements →
      ∃ name ∈ Toml.roots statements, String.ofList name ∉ fieldNames) :
    ∃ rejection, ofToml text = .error rejection := by
  unfold ofToml
  cases document : Toml.document text with
  | none => exact ⟨.illFormed, rfl⟩
  | some fields =>
    obtain ⟨statements, read, made⟩ := Option.bind_eq_some_iff.mp document
    obtain ⟨name, root, foreign⟩ := foreign statements read
    have stops : ∃ mismatch, ofFields fields = .error mismatch :=
      foldlM_readField_of_foreign ⟨name, (Toml.mem_names_ofStatements made).mpr root, foreign⟩
    obtain ⟨mismatch, rejected⟩ := stops
    refine ⟨.unfit text fields mismatch, ?_⟩
    simp only [rejected]
    rfl

/-- A document with the settings that a user chooses, in whatever order and layout, is read as these and
the defaults for the rest. Reports are then about the actors in its list, also if that is empty, and about
all actors if there is no list. A text in which a statement begins at any other key is rejected, whatever
else is in it. -/
theorem load_of_document :
    (∀ (chosen : Chosen) (order : List Setting) (text : List Char) (files : Files)
      (location : Location),
      order.Perm chosen.list → (∀ setting ∈ order, setting.Fits) →
      Toml.WrittenDocument Setting.Written order text →
      files location.path = .ok (.file (Text.Utf8.encode text)) →
      load files (some location) = .ok chosen.settings ∧
        chosen.settings.selection =
          match chosen.actors with
          | some ids => .only ids
          | none => .all) ∧
    ∀ (text : List Char) (files : Files) (location : Location),
      (∀ statements, Toml.statements text = some statements →
        ∃ name ∈ Toml.roots statements, String.ofList name ∉ fieldNames) →
      files location.path = .ok (.file (Text.Utf8.encode text)) →
      ∃ rejection, load files (some location) = .error (.rejected location.path rejection) := by
  constructor
  · intro chosen order text files location rearranged fits written there
    refine ⟨?_, rfl⟩
    rw [load_of_file there]
    exact ofBytes_eq_ok_iff.mpr ⟨text, Text.Utf8.decode_encode text, ofToml_written rearranged fits written⟩
  · intro text files location foreign there
    obtain ⟨rejection, rejected⟩ := ofToml_of_foreign foreign
    refine ⟨rejection, ?_⟩
    rw [load_of_file there]
    simp only [ofBytes, Text.Utf8.decode_encode, rejected]
    rfl

/-! ## A document in an unusual layout -/

/-- A document with a mark, comments, line ends of both manners, a quoted key and an array over several
lines with numbers of two bases. -/
def spreadText : List Char :=
  ("\uFEFF# what to show\r\n\r\n'on-violation'\t= 'abort'   # strict\n\n" ++
    "actors = [ 0x2a, 7,\n  # again\n  1_000, 7, ]\n").toList

/-- What it settles. -/
def spreadChosen : Chosen :=
  ⟨some [42, 7, 1000, 7], none, some .abort⟩

theorem spreadText_written :
    Toml.WrittenDocument Setting.Written [.onViolation .abort, .actors [42, 7, 1000, 7]] spreadText := by
  have blank (text : List Char) (only : text.all (fun c => c = ' ' ∨ c = '\t') = true) :
      Toml.Blanks text := by
    simpa [Toml.Blanks] using only
  have comment (content : List Char) (visible : content.all Toml.isVisible = true) :
      Toml.Comment ('#' :: content) := .some (by simpa using visible)
  have quoted (content : List Char)
      (plain : content.all (fun c => Toml.isVisible c = true ∧ c ≠ '\'') = true) :
      Toml.Enclosed content ('\'' :: (content ++ ['\''])) :=
    .single fun c member => of_decide_eq_true (List.all_eq_true.mp plain c member)
  have nothing : Toml.Blanks [] := nofun
  have gap (text : List Char) (only : text.all (fun c => c = ' ' ∨ c = '\t') = true) :
      Toml.Space text := .blanks (blank text only)
  have heading : Toml.Space ([] ++ ("# what to show".toList ++ ("\r\n".toList ++
      ([] ++ ([] ++ ("\r\n".toList ++ [])))))) :=
    .line nothing (comment _ (by decide)) .pair (.line nothing .none .pair (.blanks nothing))
  have policy : Setting.Written (.onViolation .abort) ("'on-violation'".toList ++ ("\t".toList ++
      '=' :: (" ".toList ++ "'abort'".toList))) :=
    .mk (.enclosed (quoted _ (by decide))) (blank _ (by decide)) (blank _ (by decide))
      (.onViolation (.line (quoted _ (by decide))))
  have fortyTwo : Toml.WrittenNumber 42 "0x2a".toList := by
    have last : Toml.Digits 16 2 42 ['a'] := Toml.Digits.last (rfl : Toml.digitIn? 16 'a' = some 10)
    exact .hexadecimal (.next (rfl : Toml.digitIn? 16 '2' = some 2) last)
  have seven : Toml.WrittenNumber 7 "7".toList :=
    .decimal (Toml.Digits.last (rfl : Toml.digitIn? 10 '7' = some 7)) nofun
  have thousand : Toml.WrittenNumber 1000 "1_000".toList := by
    have zero : Toml.digitIn? 10 '0' = some 0 := rfl
    have zeros : Toml.Digits 10 1 1000 ['0', '0', '0'] := .next zero (.next zero (Toml.Digits.last zero))
    exact .decimal (.parted (rfl : Toml.digitIn? 10 '1' = some 1) zeros) nofun
  have again : Toml.Space ([] ++ ([] ++ ("\n".toList ++ ("  ".toList ++ ("# again".toList ++
      ("\n".toList ++ "  ".toList)))))) :=
    .line nothing .none .feed (.line (blank _ (by decide)) (comment _ (by decide)) .feed
      (gap _ (by decide)))
  have array : Toml.WrittenItems Toml.WrittenNumber [42, 7, 1000, 7]
      " 0x2a, 7,\n  # again\n  1_000, 7, ]".toList :=
    .next (gap " ".toList (by decide)) fortyTwo (gap [] (by decide)) <|
    .next (gap " ".toList (by decide)) seven (gap [] (by decide)) <|
    .next again thousand (gap [] (by decide)) <|
    .next (gap " ".toList (by decide)) seven (gap [] (by decide)) <|
    .none (gap " ".toList (by decide))
  have actors : Setting.Written (.actors [42, 7, 1000, 7])
      "actors = [ 0x2a, 7,\n  # again\n  1_000, 7, ]".toList :=
    .mk (.bare (by decide) (List.all_eq_true.mp (by decide : "actors".toList.all Toml.isBareChar = true)))
      (blank " ".toList (by decide)) (blank " ".toList (by decide))
      (.actors array)
  have document := Toml.WrittenDocument.marked (.next heading policy (blank "   ".toList (by decide))
    (comment " strict".toList (by decide)) .feed (.next (.line nothing .none .feed (.blanks nothing)) actors
      nothing .none .feed (.none (.blanks nothing) .none)))
  convert document using 1
  decide +kernel

theorem load_of_spreadText :
    load (fun _ => .ok (.file (Text.Utf8.encode spreadText))) (some ⟨"mailscope.toml", true⟩) =
        .ok ⟨some [42, 7, 1000, 7], .text, .abort⟩ ∧
      ∃ rejection, load (fun _ => .ok (.file (Text.Utf8.encode "[theme.dark]\nactors = [1]\n".toList)))
        (some ⟨"mailscope.toml", true⟩) = .error (.rejected "mailscope.toml" rejection) := by
  obtain ⟨gives, rejects⟩ := load_of_document
  constructor
  · have rearranged : [Setting.onViolation .abort, .actors [42, 7, 1000, 7]].Perm spreadChosen.list :=
      .swap _ _ _
    have fits : ∀ setting ∈ [Setting.onViolation .abort, .actors [42, 7, 1000, 7]], setting.Fits := by
      simp [Setting.Fits]
    exact (gives spreadChosen _ spreadText _ _ rearranged fits spreadText_written rfl).1
  · refine rejects _ _ _ ?_ rfl
    intro statements read
    have roots : (Toml.statements "[theme.dark]\nactors = [1]\n".toList).map Toml.roots =
        some ["theme".toList, "theme".toList] := by decide +kernel
    rw [read, Option.map_some, Option.some.injEq] at roots
    rw [roots]
    exact ⟨"theme".toList, List.mem_cons_self, by decide⟩

end Settings

end QueueDepth
