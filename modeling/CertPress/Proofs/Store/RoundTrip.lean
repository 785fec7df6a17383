import CertPress.Proofs.Files.Disk
import CertPress.Proofs.Json.Layout
import CertPress.Proofs.Record.Written
import CertPress.Proofs.Store.Again
import CertPress.Proofs.Text.Utf8
import CertPress.Store.Record

/-!
# Records that are loaded as they were saved

A record is stored as the indented text of a value and sent as its compact text.  Both
are read as the tree of the value, so whoever reads the one finds what the other tells.

A record that was saved is loaded from the file that its key names, and read back as it was.
Saving it again writes the same bytes to the same file, so it leaves the disk as it is.
-/

namespace CertPress

/-! ## Records that are read -/

namespace Json.Decoder

theorem readBytes_pretty {α : Type} (decoder : Decoder α) (value : Value) :
    decoder.readBytes (bytesOf value.pretty) = decoder depthLimit (Raw.ofValue value) := by
  have source : Text.decodeEach (bytesOf value.pretty) = Source.ofChars value.pretty.toList :=
    Text.decodeEach_encode _
  rw [readBytes, source]
  exact decoder.readSource_of_ended (ofSource_pretty value)

end Json.Decoder

namespace Store

open Json (Value Decoder)

variable {α : Type} {root : FilePath} {key : String} {disk : Disk} {value : Value}

/-- A record that holds the text of a value loads as what the value is read as. -/
theorem loadRecord_of_read (decoder : Decoder α)
    (isRead : Store.read root key disk = .ok (bytesOf value.pretty)) :
    loadRecord decoder root key disk =
      (decoder.read value.text).mapError fun _ => .malformed := by
  rw [Decoder.read_text, loadRecord, isRead]
  simp only [bind, Except.bind]
  rw [Decoder.readBytes_pretty]
  cases decoder Json.depthLimit (Json.Raw.ofValue value) with
  | ok result => rfl
  | error fault => rfl

/-- What is loaded is read from the content of the object. -/
theorem loadRecord_eq_ok {decoder : Decoder α} {record : α}
    (loaded : loadRecord decoder root key disk = .ok record) :
    ∃ content, Store.read root key disk = .ok content ∧ decoder.readBytes content = .ok record := by
  obtain ⟨content, isStored, rest⟩ := Action.except_bind_eq_ok.mp loaded
  split at rest
  next isRead =>
    cases rest
    exact ⟨content, isStored, isRead⟩
  next => cases rest

end Store

/-! ## Files that are written again -/

namespace Disk

variable {disk made after : Disk} {location : Location} {path : FilePath} {content : Bytes}
variable {executable : Bool}

/-- A file that was written is written to the same place again. -/
theorem target_set (targeted : disk.target path false = .ok location) :
    (disk.set location (.file content executable)).target path false = .ok location := by
  obtain ⟨located, free⟩ := target_eq_ok targeted
  have filled : location ≠ [] := by
    rintro rfl
    exact free rfl
  have isThere : (disk.set location (.file content executable)).at? location =
      some (.file content executable) := by
    rw [at?_set _ _ _ _ filled, if_pos rfl]
  cases slash : path.endsWithSlash with
  | true =>
      unfold target at targeted
      obtain ⟨place, -, rest⟩ := Action.except_bind_eq_ok.mp targeted
      rw [slash] at rest
      split at rest
      next => cases rest
      next => cases rest
      next => split at rest <;> cases rest
  | false =>
      unfold target at targeted ⊢
      simp only [slash, Bool.false_eq_true, if_false, locate_set free located, located, isThere,
        bind, Except.bind] at targeted ⊢
      split
      next isHere => simp [isHere] at targeted
      next isUp => simp [isUp] at targeted
      next => rfl

theorem set_set (disk : Disk) (location : Location) (entry : Entry) :
    (disk.set location entry).set location entry = disk.set location entry := by
  have same : (disk.entries.insert location.key entry).insert location.key entry =
      disk.entries.insert location.key entry := by
    refine Mapping.ext_get? fun key => ?_
    simp only [Mapping.get?_insert]
    split <;> rfl
  simp only [set, same]

/-- Where the directories of a path are there, they stay there. -/
theorem makeDirectories_of_keeps {kept : Location → Prop} (keeps : Keeps kept made after)
    (outcome : makeDirectories path made = (.ok (), made)) :
    makeDirectories path after = (.ok (), after) := by
  unfold makeDirectories at outcome ⊢
  split at outcome
  next => cases outcome
  next =>
    rw [start, keeps.workingDirectory, ← start]
    by_cases named : (path.pieces.filter (!List.isEmpty ·)).map String.ofList = []
    · rw [named]
      rfl
    · obtain ⟨walked, directory⟩ := walk_of_makeFrom (start_of_makeFrom named outcome) outcome
      exact makeFrom_of_walk (keeps.walk walked) (keeps.directory _ directory)

end Disk

namespace Store

open Json (Value Decoder Raw)
open Record (Template Organization Document)

variable {root : FilePath} {key : String} {content : Bytes} {before after : Disk}

theorem prepare_of_keeps {kept : Location → Prop} {path : FilePath} {disk made : Disk}
    (prepared : prepare path disk = (.ok (), made)) (keeps : Disk.Keeps kept made after) :
    prepare path after = (.ok (), after) := by
  unfold prepare at prepared ⊢
  dsimp only at prepared ⊢
  split at prepared
  next outcome =>
    cases prepared
    rw [Disk.makeDirectories_of_keeps keeps (Disk.makeDirectories_again outcome)]
  next => cases prepared

/-- Putting an object again changes nothing. -/
theorem put_again (done : put root key content before = (.ok (), after)) :
    put root key content after = (.ok (), after) := by
  rw [put_eq] at done ⊢
  obtain ⟨path, _, found, rest⟩ := Action.bind_eq_ok.mp done
  obtain ⟨isPath, rfl⟩ := Action.lift_eq_ok.mp found
  obtain ⟨_, made, prepared, wrote⟩ := Action.bind_eq_ok.mp rest
  unfold Disk.write at wrote
  cases targeted : made.target path false with
  | error fault =>
      rw [targeted] at wrote
      cases wrote
  | ok location =>
      rw [targeted] at wrote
      cases wrote
      have keeps := Disk.keeps_set_file (Disk.target_eq_ok targeted).2 content false
      refine Action.bind_eq_ok.mpr ⟨path, _, Action.lift_eq_ok.mpr ⟨isPath, rfl⟩, ?_⟩
      refine Action.bind_eq_ok.mpr ⟨(), _, prepare_of_keeps prepared keeps, ?_⟩
      unfold Disk.write
      rw [Disk.target_set targeted]
      dsimp only
      rw [Disk.set_set]

/-- A saved record is loaded as what its value is read as. -/
theorem loadRecord_saved {α : Type} {decoder : Decoder α} {value : Value} {record : α}
    (saved : saveRecord root key value before = (.ok (), after))
    (isRead : decoder Json.depthLimit (Raw.ofValue value) = .ok record) :
    loadRecord decoder root key after = .ok record := by
  rw [loadRecord_of_read decoder (read_put saved), Decoder.read_text, isRead]
  rfl

/-- Whether a record is loaded as it was saved, and is saved again as it was. -/
def ReadsBack {α : Type} (decoder : Decoder α) (toValue : α → Value) (record : α) : Prop :=
  ∀ {root : FilePath} {key : String} {before after : Disk},
    saveRecord root key (toValue record) before = (.ok (), after) →
      ∃ loaded, loadRecord decoder root key after = .ok loaded ∧ loaded = record ∧
        saveRecord root key (toValue loaded) after = (.ok (), after)

theorem readsBack_of_read {α : Type} {decoder : Decoder α} {toValue : α → Value} {record : α}
    (isRead : decoder Json.depthLimit (Raw.ofValue (toValue record)) = .ok record) :
    ReadsBack decoder toValue record :=
  fun saved => ⟨record, loadRecord_saved saved isRead, rfl, put_again saved⟩

/-- Templates, organizations and documents of every category are read back. -/
theorem records_readBack :
    (∀ template : Template, template.Written →
      ReadsBack Template.decoder Template.toValue template) ∧
    (∀ organization : Organization,
      ReadsBack Organization.decoder Organization.toValue organization) ∧
    (∀ document : Document, document.Written →
      ReadsBack Document.decoder Document.toValue document) := by
  refine ⟨?_, ?_, ?_⟩
  · exact fun template written => readsBack_of_read (Template.decoder_toValue written)
  · exact fun organization => readsBack_of_read (organization.decoder_toValue (by decide))
  · exact fun document written => readsBack_of_read (Document.decoder_toValue written)

/-- A daily sheet with a payload of two levels. -/
def sheet : Document where
  id := ⟨1⟩
  templateId := ⟨2⟩
  organizationId := some ⟨3⟩
  createdBy := none
  certificateData := Mapping.empty.insert "rows" (.array [.number (.integer (-7)), .string "a\"b"])
  certificatePdf := none
  isPublic := true
  generatedAt := ⟨1700000000, 250000000⟩
  details := .dailySheet

theorem records_readBack_sheet : sheet.Written ∧ ∃ after,
    saveRecord ⟨"records"⟩ (Record.Key.document sheet.id) sheet.toValue Disk.empty =
      (.ok (), after) ∧
    ∃ loaded, loadRecord Document.decoder ⟨"records"⟩ (Record.Key.document sheet.id) after =
        .ok loaded ∧ loaded = sheet ∧
      saveRecord ⟨"records"⟩ (Record.Key.document sheet.id) loaded.toValue after =
        (.ok (), after) := by
  have exact : (Value.ofObject sheet.certificateData).Exact 2 := by
    refine .object (List.pairwise_singleton _ _) fun member inMembers => ?_
    obtain rfl := List.mem_singleton.mp inMembers
    refine .array fun item inItems => ?_
    simp only [List.mem_cons, List.not_mem_nil, or_false] at inItems
    rcases inItems with rfl | rfl
    · exact .integer (by unfold Json.Number.InRange; decide)
    · exact .string _
  have written : sheet.Written :=
    ⟨exact.mono (by decide), by decide, by decide, by decide, by decide, by decide⟩
  have plain := Record.Key.plain_document sheet.id
  have opened : Disk.empty.Open ((⟨"records"⟩ : FilePath).join "documents") :=
    Disk.open_empty (by decide) (by decide)
  obtain ⟨after, saved⟩ : ∃ after, saveRecord ⟨"records"⟩ (Record.Key.document sheet.id)
      sheet.toValue Disk.empty = (.ok (), after) := by
    rw [Record.Key.document_eq]
    exact put_of_open plain (by decide) (by decide) opened fun _ prepared =>
      not_directory_of_within plain (Disk.within_empty _) (by decide) prepared
  exact ⟨written, after, saved, records_readBack.2.2 sheet written saved⟩

end Store

end CertPress
