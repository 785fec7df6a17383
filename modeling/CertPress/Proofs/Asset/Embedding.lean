import CertPress.Proofs.Asset.DataUrl
import CertPress.Proofs.Asset.Fallback
import CertPress.Proofs.Store.Contents

/-!
# Embedded images in files

A final render writes the bytes that an address carries to a file and shows that file.  Where
the file can be written and there is none yet, the file has exactly the bytes of the address,
and nothing is noted but that it was stored.
-/

namespace CertPress

open FilePath (Plain ofNames)

/-! ## The key of a payload -/

namespace Asset

/-- The key under which the image of a field is stored. -/
def Payload.key (payload : Payload) (owner : Uuid) (field : String) : String :=
  Record.Key.asset owner field (Store.shortDigest payload.content) payload.extension

theorem Payload.key_eq (payload : Payload) (owner : Uuid) (field : String) :
    payload.key owner field = ofNames ["certificates",
      Record.Key.imageName owner field (Store.shortDigest payload.content) payload.extension] :=
  Record.Key.asset_eq _ _ _ _

end Asset

/-! ## An image that is not stored yet -/

/-- A file that is put where there was nothing is read. -/
theorem Disk.read_set_of_nothing {disk : Disk} {path : FilePath} {location : Location}
    (located : disk.locate path = .ok location) (nothing : disk.at? location = none)
    (content : Bytes) (executable : Bool) :
    (disk.set location (.file content executable)).read path = .ok content := by
  have free : disk.at? location ≠ some .directory := by simp [nothing]
  have stays : (disk.set location (.file content executable)).locate path = .ok location :=
    locate_set free located
  rw [read, Action.except_bind_eq_ok]
  exact ⟨_, find_eq_ok.mpr ⟨stays, at?_set_self nothing _⟩, rfl⟩

namespace Store

open Record (Category Key.imageName)
open Asset (Payload)

variable {root : FilePath} {key name : String} {disk : Disk}

/-- An image can be stored under a key, and nothing is in its place: the directory of images is
there or can be made, the path of the image is not refused, and nothing lies there once the
directory is made. -/
structure Vacant (root : FilePath) (key : String) (disk : Disk) : Prop where
  opened : disk.Open (root.join "certificates")
  allowed : Disk.refusal? (root.join key) = none
  free : ∀ made, prepare (root.join key) disk = (.ok (), made) →
    made.at? (made.place (root.join key)) = none

/-- What is read under a key is an object. -/
theorem contains_of_read {content : Bytes} (isRead : read root key disk = .ok content) :
    contains root key disk := by
  obtain ⟨isKey, found⟩ := read_eq_ok.mp isRead
  rw [Disk.read, Action.except_bind_eq_ok] at found
  obtain ⟨⟨location, entry⟩, isFound, rest⟩ := found
  cases entry with
  | directory => cases rest
  | file content executable =>
      exact contains_iff.mpr ⟨isKey, Disk.isFile_iff.mpr ⟨location, content, executable, isFound⟩⟩

/-- Where the way to the root is straight, making the directory puts nothing in the place of an
image. -/
theorem vacant_of_straight (plain : Plain ["certificates", name]) (straight : Straight root disk)
    (opened : disk.Open (root.join "certificates"))
    (allowed : Disk.refusal? (root.join (ofNames ["certificates", name])) = none)
    (nothing : disk.at? (disk.place (root.join (ofNames ["certificates", name]))) = none) :
    Vacant root (ofNames ["certificates", name]) disk := by
  constructor
  · exact opened
  · exact allowed
  · intro made prepared
    have keeps := keeps_prepare (root.join (ofNames ["certificates", name])) disk
    have below := at?_prepare_below plain straight (ofNames ["certificates", name])
    rw [prepared] at keeps below
    rw [at?_place plain root disk] at nothing
    rw [at?_place plain root made, keeps.place]
    rcases below with same | ⟨-, isHome⟩
    · exact same.trans nothing
    · rw [Record.Key.ofNames_pair] at isHome
      have longer := congrArg (fun text => text.toList.length) isHome
      simp at longer

section Image

variable {category : Category} {kind : String} (member : kind ∈ category.assetFields)
variable (payload : Payload) (id : Uuid)
include member

/-- The bytes of an image are in its file once it is stored where there was nothing. -/
theorem saveImage_of_vacant
    (vacant : Vacant root (payload.key id kind) disk) :
    ∃ after, saveImage root payload.content id kind payload.extension disk =
        (.ok (payload.key id kind), after) ∧
      read root (payload.key id kind) after = .ok payload.content := by
  have plain := plain_payload member payload id
  have fits := imageName_fits id (extension_fit payload) member payload.content
  obtain ⟨opened, allowed, free⟩ := vacant
  rw [payload.key_eq] at allowed free ⊢
  obtain ⟨made, prepared, isDirectory⟩ := prepare_of_open plain opened
  obtain ⟨location, located, nothing⟩ : ∃ location,
      made.locate (root.join (ofNames ["certificates",
        Key.imageName id kind (shortDigest payload.content) payload.extension])) = .ok location ∧
      made.at? location = none :=
    ⟨_, locate_of_isDirectory plain isDirectory allowed fits.short, free made prepared⟩
  refine ⟨made.set location (.file payload.content false), ?_, ?_⟩
  · rw [saveImage_of_prepare plain prepared, saveImage_of_isDirectory plain isDirectory,
      Record.Key.asset_eq, located]
    simp only [nothing]
  · exact read_eq_ok.mpr ⟨FilePath.isInner_ofNames plain,
      Disk.read_set_of_nothing located nothing payload.content false⟩

end Image

end Store

namespace Asset

open Record (Category)
open Settings (AssetRoot RenderSettings)

/-! ## Mounts and keys -/

theorem exists_last_extension (payload : Payload) :
    ∃ char ∈ payload.extension.toList.getLast?, Text.isBlank char = false := by
  unfold Payload.extension
  split <;> exact ⟨_, rfl, by decide⟩

/-- The key of an image has no blanks at its ends. -/
theorem trimmed_key (payload : Payload) (owner : Uuid) (field : String) :
    Text.trimmed (payload.key owner field) = payload.key owner field := by
  have chars : (payload.key owner field).toList =
      "certificates".toList ++ ("/".toList ++ ("cert_".toList ++ (owner.text.toList ++
        '_' :: (field.toList ++ '_' ::
          ((Store.shortDigest payload.content).toList ++ '.' :: payload.extension.toList))))) := by
    rw [payload.key_eq, Record.Key.ofNames_pair, String.toList_append, String.toList_append,
      Record.Key.toList_imageName, List.append_assoc]
  obtain ⟨last, isLast, shown⟩ := exists_last_extension payload
  apply String.toList_injective
  rw [Text.trimmed, String.toList_ofList]
  apply Text.trim_eq_self_of_ends
  · intro char isFirst
    rw [chars] at isFirst
    cases isFirst
    decide
  · intro char isChar
    rw [chars] at isChar
    simp only [List.getLast?_append, List.getLast?_cons, Option.mem_def.mp isLast,
      Option.getD_some, Option.some_or, Option.mem_some_iff] at isChar
    exact isChar ▸ shown

/-- The directory of images is the only mount that the key of an image starts with. -/
theorem key_ne_mount {category : Category} {field : String}
    (member : field ∈ category.assetFields) (payload : Payload) (owner : Uuid) {mount : String}
    (apart : mount ≠ "certificates") (rest : String) :
    payload.key owner field ≠ mount ++ "/" ++ rest := by
  have plain := Store.plain_payload member payload owner
  intro same
  rw [payload.key_eq] at same
  have pieces := FilePath.pieces_ofNames plain
  rw [same, FilePath.pieces, String.toList_append, String.toList_append, List.append_assoc] at pieces
  change Text.split '/' (mount.toList ++ '/' :: rest.toList) = _ at pieces
  rw [Text.split_append] at pieces
  -- One piece is left for the mount.
  obtain ⟨first, others, isMount⟩ :=
    List.exists_cons_of_ne_nil (Text.split_ne_nil '/' mount.toList)
  obtain ⟨next, more, isRest⟩ := List.exists_cons_of_ne_nil (Text.split_ne_nil '/' rest.toList)
  rw [isMount, isRest] at pieces
  have single : others = [] := by
    have lengths := congrArg List.length pieces
    simp only [List.length_append, List.length_cons, List.length_map, List.length_nil] at lengths
    exact List.length_eq_zero_iff.mp (by omega)
  subst single
  have isFirst : first = "certificates".toList := (List.cons.inj pieces).1
  apply apart
  apply String.toList_injective
  rw [← Text.join_split '/' mount.toList, isMount, isFirst]
  rfl

/-- Nothing is taken off the key of an image, unless the directory of images is a mount. -/
theorem withoutMount_key {category : Category} {field : String}
    (member : field ∈ category.assetFields) (payload : Payload) (owner : Uuid)
    {roots : List AssetRoot} (apart : ∀ root ∈ roots, root.mount ≠ "certificates") :
    Resolver.withoutMount roots (payload.key owner field) = payload.key owner field := by
  have isKey : IsKey (payload.key owner field) := by
    rw [payload.key_eq]
    exact FilePath.isInner_ofNames (Store.plain_payload member payload owner)
  have noMount : (roots.findSome? fun root =>
      Resolver.belowMount? root.mount (payload.key owner field)) = none := by
    rw [List.findSome?_eq_none_iff]
    intro root inRoots
    exact belowMount?_eq_none_iff.mpr (key_ne_mount member payload owner (apart root inRoots))
  have names := (names_iff roots _).mpr (congrArg (Option.getD · _) noMount).symm
  exact ((withoutMount_iff isKey (trimmed_key payload owner field) roots _).mp names).symm

/-! ## What an address becomes -/

section Embedded

variable {settings : RenderSettings} {owner : Uuid} {category : Category} {field : String}
variable {payload : Payload} {progress : Progress}

/-- An image that is stored in the place of nothing is shown from its file. -/
theorem resolveEmbedded_of_vacant (member : field ∈ category.assetFields)
    (absolute : settings.assetRoots.primary.directory.isAbsolute)
    (apart : ∀ root ∈ settings.assetRoots.inOrder, root.mount ≠ "certificates")
    {url : String} (isPayload : Payload.ofUrl? url = some payload)
    (vacant : Store.Vacant settings.assetRoots.primary.directory (payload.key owner field)
      progress.disk) :
    ∃ address disk,
      (⟨settings, .final, owner⟩ : Resolver).resolveEmbedded field url progress =
        (address, ⟨disk, progress.warnings,
          progress.stored ++ [⟨field, payload.key owner field⟩]⟩) ∧
      (settings.assetRoots.primary.directory.join (payload.key owner field)).fileUrl? =
        some address ∧
      Store.read settings.assetRoots.primary.directory (payload.key owner field) disk =
        .ok payload.content := by
  obtain ⟨disk, saved, isRead⟩ := Store.saveImage_of_vacant member payload owner vacant
  have contains : Store.contains settings.assetRoots.primary.directory
      (payload.key owner field) disk := Store.contains_of_read isRead
  have first : (settings.assetRoots.inOrder.find? fun root =>
      Store.contains root.directory (payload.key owner field) disk) =
        some settings.assetRoots.primary := List.find?_cons_of_pos contains
  let between : Progress := { progress with disk }
  obtain ⟨address, isAddress, shown⟩ : ∃ address,
      addressBelow? settings .final settings.assetRoots.primary (payload.key owner field) =
        some address ∧
      (⟨settings, .final, owner⟩ : Resolver).resolveStored field (payload.key owner field)
        between = (address, between) :=
    resolveStored_found ⟨settings, .final, owner⟩ field
      (withoutMount_key member payload owner apart).symm first absolute
  refine ⟨address, disk, ?_, isAddress, isRead⟩
  have savedHere : Store.saveImage (⟨settings, .final, owner⟩ : Resolver).storeRoot payload.content
      owner field payload.extension progress.disk = (.ok (payload.key owner field), disk) := saved
  simp only [Resolver.resolveEmbedded, isPayload, savedHere]
  rw [shown]

/-- An image that cannot be stored is warned of. -/
theorem resolveEmbedded_of_failed {resolver : Resolver} {url : String} {fault : StoreFault}
    {disk : Disk} (isPayload : Payload.ofUrl? url = some payload)
    (failed : Store.saveImage resolver.storeRoot payload.content resolver.owner field
      payload.extension progress.disk = (.error fault, disk)) :
    resolver.resolveEmbedded field url progress =
      ("", { progress with disk }.warn field url
        ("embedded payload could not be stored: " ++ fault.message)) := by
  simp only [Resolver.resolveEmbedded, isPayload, failed]

end Embedded

/-- The key under which a final render stores the bytes of an address. -/
def embeddedKey (owner : Uuid) (field mediaType : String) (bytes : Bytes) : String :=
  (Payload.mk (Text.lowerAscii (Text.trimmed mediaType)) bytes).key owner field

section DataUrl

variable {parameters : List String} {body : List Char} {bytes : Bytes}
variable (filled : bytes ≠ []) (carries : Carries parameters body bytes)
include filled carries

/-- An address that carries bytes is resolved as an embedded image. -/
theorem resolve_eq_resolveEmbedded (settings : RenderSettings) (owner : Uuid)
    (field mediaType : String) (progress : Progress) :
    (⟨settings, .final, owner⟩ : Resolver).resolve field (dataUrl mediaType parameters body)
        progress =
      (⟨settings, .final, owner⟩ : Resolver).resolveEmbedded field
        (dataUrl mediaType parameters (Text.trimEnd body)) progress := by
  obtain ⟨char, inBody, shown⟩ := carries.exists_shown filled
  have classified : Reference.classify (dataUrl mediaType parameters body) =
      .embedded (dataUrl mediaType parameters (Text.trimEnd body)) :=
    classify_dataUrl mediaType inBody shown
  have visible : Text.blank (dataUrl mediaType parameters body) = false := by
    apply Text.blank_eq_false_of_trimmed
    rw [trimmed_dataUrl mediaType inBody shown]
    simp [dataUrl]
  rw [Resolver.resolve, if_neg (by simp [visible]), classified]

/-- A final render gives back the bytes that an address carries: it shows a file below the
primary root that holds them, and notes nothing but that it was stored. -/
theorem resolve_dataUrl {settings : RenderSettings} (owner : Uuid) {category : Category}
    {field : String} (member : field ∈ category.assetFields)
    (absolute : settings.assetRoots.primary.directory.isAbsolute)
    (apart : ∀ root ∈ settings.assetRoots.inOrder, root.mount ≠ "certificates")
    {mediaType : String}
    (free : ∀ part ∈ mediaType :: parameters, ',' ∉ part.toList ∧ ';' ∉ part.toList)
    (progress : Progress)
    (vacant : Store.Vacant settings.assetRoots.primary.directory
      (embeddedKey owner field mediaType bytes) progress.disk) :
    ∃ address after,
      (⟨settings, .final, owner⟩ : Resolver).resolve field (dataUrl mediaType parameters body)
        progress = (address, after) ∧
      after.warnings = progress.warnings ∧
      after.stored = progress.stored ++ [⟨field, embeddedKey owner field mediaType bytes⟩] ∧
      (settings.assetRoots.primary.directory.join
        (embeddedKey owner field mediaType bytes)).fileUrl? = some address ∧
      Store.read settings.assetRoots.primary.directory (embeddedKey owner field mediaType bytes)
        after.disk = .ok bytes := by
  have isPayload := ofUrl?_dataUrl free carries.trimEnd filled
  obtain ⟨address, disk, resolved, isAddress, isRead⟩ :=
    resolveEmbedded_of_vacant member absolute apart isPayload vacant
  rw [resolve_eq_resolveEmbedded filled carries]
  exact ⟨address, _, resolved, rfl, rfl, isAddress, isRead⟩

end DataUrl

/-! ## Runs -/

/-- On an empty disk every image can be stored below the primary root. -/
theorem vacant_rootedSettings {category : Category} {field : String}
    (member : field ∈ category.assetFields) (owner : Uuid) (mediaType : String) (bytes : Bytes) :
    Store.Vacant rootedSettings.assetRoots.primary.directory
      (embeddedKey owner field mediaType bytes) .empty := by
  let payload : Payload := ⟨Text.lowerAscii (Text.trimmed mediaType), bytes⟩
  have plain := Store.plain_payload member payload owner
  have fits := Store.imageName_fits owner (Store.extension_fit payload) member bytes
  have roomy : Store.Roomy rootedSettings.assetRoots.primary.directory :=
    ⟨by decide, by decide⟩
  have nothing (front : Location) (name : String) : Disk.empty.at? (front ++ [name]) = none := by
    rw [Disk.at?_concat]
    rfl
  rw [embeddedKey, Payload.key_eq]
  apply Store.vacant_of_straight plain
  · exact .inr (by decide)
  · exact Disk.open_empty (by decide) (by decide)
  · exact roomy.allowed_certificate plain fits
  · rw [Disk.place_join_pair plain]
    exact nothing _ _

/-- The case of a photo on an empty disk, in Base64 with blanks. -/
theorem resolve_dataUrl_photo :
    ∃ address after,
      (⟨rootedSettings, .final, default⟩ : Resolver).resolve "candidate_photo"
        "data:image/png;name=a;BASE64,Y g=\n=" (.start .empty) = (address, after) ∧
      after.warnings = [] ∧
      after.stored =
        [⟨"candidate_photo", embeddedKey default "candidate_photo" "image/png" [98]⟩] ∧
      ((⟨"/srv/media"⟩ : FilePath).join
        (embeddedKey default "candidate_photo" "image/png" [98])).fileUrl? = some address ∧
      Store.read ⟨"/srv/media"⟩ (embeddedKey default "candidate_photo" "image/png" [98])
        after.disk = .ok [98] := by
  have member : "candidate_photo" ∈ Category.assetFields .idCard := by decide
  have carries : Carries ["name=a", "BASE64"] "Y g=\n=".toList [98] :=
    .base64 (.tail _ (.head _)) (by unfold IsBase64; decide) (by decide)
  have same : "data:image/png;name=a;BASE64,Y g=\n=" =
      dataUrl "image/png" ["name=a", "BASE64"] "Y g=\n=".toList := by decide
  rw [same]
  exact resolve_dataUrl (by decide) carries default member (by decide) (by decide) (by decide)
    (.start .empty) (vacant_rootedSettings member default "image/png" [98])

/-- Where a file has the name of the directory of images, an image cannot be stored and nothing
is shown; and a blank that ends a body with percent groups is not part of what is carried. -/
theorem resolve_dataUrl_lost :
    rootedSettings.assetRoots.primary.directory.isAbsolute ∧
    (∀ root ∈ rootedSettings.assetRoots.inOrder, root.mount ≠ "certificates") ∧
    "candidate_photo" ∈ Category.assetFields .idCard ∧
    Carries ["base64"] "Yg==".toList [98] ∧
    Store.contains ⟨"/srv/media"⟩ (embeddedKey default "candidate_photo" "image/png" [98])
      (diskOf [["srv", "media", "certificates"]]) = false ∧
    (∃ after, (⟨rootedSettings, .final, default⟩ : Resolver).resolve "candidate_photo"
        "data:image/png;base64,Yg==" (.start (diskOf [["srv", "media", "certificates"]])) =
          ("", after) ∧
      after.warnings ≠ [] ∧ after.stored = []) ∧
    Text.Percent.Escapes [97, 32] "a ".toList ∧
    Payload.ofUrl? (Reference.classify (dataUrl "text/plain" [] "a ".toList)).text =
      some ⟨"text/plain", [97]⟩ := by
  have member : "candidate_photo" ∈ Category.assetFields .idCard := by decide
  have carries : Carries ["base64"] "Yg==".toList [98] :=
    .base64 (.head _) (by unfold IsBase64; decide) (by decide)
  let payload : Payload := ⟨Text.lowerAscii (Text.trimmed "image/png"), [98]⟩
  have plain := Store.plain_payload member payload default
  have blocked : (diskOf [["srv", "media", "certificates"]]).Blocked
      ((⟨"/srv/media"⟩ : FilePath).join "certificates") := by
    refine ⟨.alreadyExists, Prod.ext ?_ ?_⟩
    · rfl
    · decide +kernel
  have same : "data:image/png;base64,Yg==" = dataUrl "image/png" ["base64"] "Yg==".toList := by
    decide
  obtain ⟨fault, failed⟩ := Store.saveImage_of_blocked plain _ blocked
  have isPayload : Payload.ofUrl? (dataUrl "image/png" ["base64"]
      (Text.trimEnd "Yg==".toList)) = some payload :=
    ofUrl?_dataUrl (by decide) carries.trimEnd (by decide)
  refine ⟨by decide, by decide, member, carries, ?_, ?_, ?_, by decide⟩
  · rw [Bool.eq_false_iff]
    intro contained
    rw [embeddedKey, Payload.key_eq] at contained
    have isDirectory := Store.isDirectory_of_contains plain contained
    rw [Store.not_isDirectory_of_blocked plain blocked] at isDirectory
    cases isDirectory
  · rw [same, resolve_eq_resolveEmbedded (by decide) carries]
    exact ⟨_, resolveEmbedded_of_failed isPayload failed, by simp [Progress.warn], rfl⟩
  · exact .literal (show 'a'.toNat ≤ 0x7F by decide) (show 'a' ≠ '%' by decide)
      (.literal (show ' '.toNat ≤ 0x7F by decide) (show ' ' ≠ '%' by decide) .nil)

end Asset

end CertPress
