import CertPress.Asset.Reference
import CertPress.Proofs.Files.Names
import CertPress.Proofs.Files.Tidy
import CertPress.Proofs.Uuid
import CertPress.Record.Category
import CertPress.Store.Record

/-!
# Names of stored files

The keys of records, artifacts and images are a directory and the name of a file.  No
two kinds of file share a name, and no two documents do.
-/

namespace CertPress

namespace Record.Key

open FilePath (IsName Plain ofNames)

/-- The file of a document. -/
def documentName (id : Uuid) : String := id.text ++ ".json"

/-- The file of an artifact. -/
def artifactName (id : Uuid) (extension : String) : String :=
  "certificate_" ++ id.text ++ "." ++ extension

/-- The file of an image. -/
def imageName (id : Uuid) (kind digest extension : String) : String :=
  "cert_" ++ id.text ++ "_" ++ kind ++ "_" ++ digest ++ "." ++ extension

theorem slash_not_mem_text (id : Uuid) : '/' ∉ id.text.toList := by
  rw [Uuid.text, String.toList_ofList]
  exact Uuid.not_mem_chars (by decide) (by decide) id

/-- A directory and a name of at least three characters make a key. -/
theorem plain_pair {directory name : String} (isDirectory : Plain [directory])
    (free : '/' ∉ name.toList) (long : 2 < name.toList.length) : Plain [directory, name] := by
  obtain ⟨-, named, noHere, noUp⟩ := isDirectory
  have filled : name.toList ≠ [] := by
    intro empty
    simp [empty] at long
  have notHere : "." ≠ name := by
    rintro rfl
    exact absurd long (by decide)
  have notUp : ".." ≠ name := by
    rintro rfl
    exact absurd long (by decide)
  constructor
  · exact List.cons_ne_nil _ _
  · intro other member
    rcases List.mem_cons.mp member with rfl | isLast
    · exact named other (.head _)
    · obtain rfl := List.mem_singleton.mp isLast
      exact ⟨filled, free⟩
  · simpa [notHere] using noHere
  · simpa [notUp] using noUp

theorem ofNames_pair (directory name : String) :
    ofNames [directory, name] = directory ++ "/" ++ name := by
  apply String.toList_injective
  simp [ofNames, Text.join]

theorem document_eq (id : Uuid) : document id = ofNames ["documents", documentName id] := by
  have split (text : String) : "documents/" ++ text ++ ".json" =
      "documents" ++ "/" ++ (text ++ ".json") := by
    simp [← String.append_assoc]
  rw [ofNames_pair]
  exact split id.text

theorem artifact_eq (id : Uuid) (extension : String) :
    artifact id extension = ofNames ["certificates", artifactName id extension] := by
  have split (text : String) : "certificates/certificate_" ++ text ++ "." ++ extension =
      "certificates" ++ "/" ++ ("certificate_" ++ text ++ "." ++ extension) := by
    simp [← String.append_assoc]
  rw [ofNames_pair]
  exact split id.text

theorem asset_eq (id : Uuid) (kind digest extension : String) :
    asset id kind digest extension =
      ofNames ["certificates", imageName id kind digest extension] := by
  have split (text : String) :
      "certificates/cert_" ++ text ++ "_" ++ kind ++ "_" ++ digest ++ "." ++ extension =
        "certificates" ++ "/" ++
          ("cert_" ++ text ++ "_" ++ kind ++ "_" ++ digest ++ "." ++ extension) := by
    simp [← String.append_assoc]
  rw [ofNames_pair]
  exact split id.text

section Chars

variable (id : Uuid) (kind digest extension : String)

theorem toList_documentName : (documentName id).toList = id.text.toList ++ ".json".toList := by
  unfold documentName
  exact String.toList_append

theorem toList_artifactName : (artifactName id extension).toList =
    "certificate_".toList ++ (id.text.toList ++ '.' :: extension.toList) := by
  unfold artifactName
  simp

theorem toList_imageName : (imageName id kind digest extension).toList =
    "cert_".toList ++ (id.text.toList ++ '_' :: (kind.toList ++ '_' :: (digest.toList ++
      '.' :: extension.toList))) := by
  unfold imageName
  simp

end Chars

/-! The start of a name tells an image from an artifact, and no record has the line that
both have in their names. -/

theorem slash_not_mem_documentName (id : Uuid) : '/' ∉ (documentName id).toList := by
  simp [toList_documentName, slash_not_mem_text id]

theorem slash_not_mem_artifactName (id : Uuid) {extension : String}
    (free : '/' ∉ extension.toList) : '/' ∉ (artifactName id extension).toList := by
  simp [toList_artifactName, slash_not_mem_text id, free]

theorem slash_not_mem_imageName (id : Uuid) {kind digest extension : String}
    (kindFree : '/' ∉ kind.toList) (digestFree : '/' ∉ digest.toList)
    (free : '/' ∉ extension.toList) : '/' ∉ (imageName id kind digest extension).toList := by
  simp [toList_imageName, slash_not_mem_text id, kindFree, digestFree, free]

theorem underscore_not_mem_documentName (id : Uuid) : '_' ∉ (documentName id).toList := by
  have notInText : '_' ∉ id.text.toList := by
    rw [Uuid.text, String.toList_ofList]
    exact Uuid.not_mem_chars (by decide) (by decide) id
  simp [toList_documentName, notInText]

/-- The first five characters of the name of a file, which tell its kind. -/
def sign (name : String) : List Char := name.toList.take 5

theorem sign_artifactName (id : Uuid) (extension : String) :
    sign (artifactName id extension) = "certi".toList := by
  rw [sign, toList_artifactName]
  rfl

theorem sign_imageName (id : Uuid) (kind digest extension : String) :
    sign (imageName id kind digest extension) = "cert_".toList := by
  rw [sign, toList_imageName]
  rfl

theorem documentName_injective : Function.Injective documentName := by
  intro id other same
  have chars := congrArg String.toList same
  rw [toList_documentName, toList_documentName] at chars
  exact Uuid.text_injective (String.toList_injective (List.append_cancel_right chars))

theorem documentName_ne_artifactName (id other : Uuid) (extension : String) :
    documentName id ≠ artifactName other extension := by
  intro same
  apply underscore_not_mem_documentName id
  rw [same]
  simp [toList_artifactName]

theorem documentName_ne_imageName (id other : Uuid) (kind digest extension : String) :
    documentName id ≠ imageName other kind digest extension := by
  intro same
  apply underscore_not_mem_documentName id
  rw [same]
  simp [toList_imageName]

theorem artifactName_ne_imageName (id other : Uuid) (first kind digest extension : String) :
    artifactName id first ≠ imageName other kind digest extension := by
  intro same
  have signs := congrArg sign same
  rw [sign_artifactName, sign_imageName] at signs
  exact absurd signs (by decide)

/-! ## What a name tells -/

theorem length_text (id : Uuid) : id.text.toList.length = 36 := by
  rw [Uuid.text, String.toList_ofList]
  simp [Uuid.chars]

theorem artifactName_inj {id other : Uuid} {extension otherExtension : String}
    (same : artifactName id extension = artifactName other otherExtension) :
    id = other ∧ extension = otherExtension := by
  have chars := congrArg String.toList same
  rw [toList_artifactName, toList_artifactName] at chars
  obtain ⟨texts, endings⟩ :=
    List.append_inj (List.append_cancel_left chars) (by rw [length_text, length_text])
  exact ⟨Uuid.text_injective (String.toList_injective texts),
    String.toList_injective (List.cons.inj endings).2⟩

theorem artifactName_injective (extension : String) :
    Function.Injective (artifactName · extension) :=
  fun _ _ same => (artifactName_inj same).1

/-- The name of an image tells its document, its kind, its digest and its extension: the
document and the digest have as many characters as every other, and the last dot is that of
the extension. -/
theorem imageName_inj {id other : Uuid}
    {kind otherKind digest otherDigest extension otherExtension : String}
    (kindFree : '.' ∉ kind.toList) (otherKindFree : '.' ∉ otherKind.toList)
    (digestFree : '.' ∉ digest.toList) (otherDigestFree : '.' ∉ otherDigest.toList)
    (sizes : digest.toList.length = otherDigest.toList.length)
    (same : imageName id kind digest extension =
      imageName other otherKind otherDigest otherExtension) :
    id = other ∧ kind = otherKind ∧ digest = otherDigest ∧ extension = otherExtension := by
  have chars := congrArg String.toList same
  rw [toList_imageName, toList_imageName] at chars
  obtain ⟨texts, rest⟩ :=
    List.append_inj (List.append_cancel_left chars) (by rw [length_text, length_text])
  have cut (kind digest extension : String) :
      kind.toList ++ '_' :: (digest.toList ++ '.' :: extension.toList) =
        (kind.toList ++ '_' :: digest.toList) ++ '.' :: extension.toList := by
    simp
  have named := (List.cons.inj rest).2
  rw [cut, cut] at named
  have free {kind digest : String} (kindFree : '.' ∉ kind.toList)
      (digestFree : '.' ∉ digest.toList) :
      '.' ∉ kind.toList ++ '_' :: digest.toList := by
    simp [kindFree, digestFree]
  obtain ⟨stems, endings⟩ := (Text.append_separator_inj (free kindFree digestFree)
    (free otherKindFree otherDigestFree)).mp named
  obtain ⟨kinds, digests⟩ := List.append_inj' stems (by simp [sizes])
  exact ⟨Uuid.text_injective (String.toList_injective texts), String.toList_injective kinds,
    String.toList_injective (List.cons.inj digests).2, String.toList_injective endings⟩

/-! ## Keys -/

theorem plain_document (id : Uuid) : Plain ["documents", documentName id] := by
  refine plain_pair ?_ (slash_not_mem_documentName id) ?_
  · exact .of_name (by decide) (by decide) (by decide)
  · simp [toList_documentName]

theorem plain_artifact (id : Uuid) {extension : String} (free : '/' ∉ extension.toList) :
    Plain ["certificates", artifactName id extension] := by
  refine plain_pair ?_ (slash_not_mem_artifactName id free) ?_
  · exact .of_name (by decide) (by decide) (by decide)
  · simp [toList_artifactName]

theorem plain_image (id : Uuid) {kind digest extension : String}
    (kindFree : '/' ∉ kind.toList) (digestFree : '/' ∉ digest.toList)
    (free : '/' ∉ extension.toList) :
    Plain ["certificates", imageName id kind digest extension] := by
  refine plain_pair ?_ (slash_not_mem_imageName id kindFree digestFree free) ?_
  · exact .of_name (by decide) (by decide) (by decide)
  · simp [toList_imageName]

end Record.Key

namespace Store

theorem not_mem_shortDigest {char : Char} (notDigit : ∀ digit < 16, char ≠ Text.hexDigit digit)
    (content : Bytes) : char ∉ (shortDigest content).toList := by
  intro member
  rw [shortDigest, String.toList_ofList] at member
  obtain ⟨word, -, inWord⟩ := List.mem_flatMap.mp (List.mem_of_mem_take member)
  obtain ⟨digit, small, isDigit⟩ := Text.mem_hexPadded inWord
  exact notDigit digit small isDigit

theorem slash_not_mem_shortDigest (content : Bytes) : '/' ∉ (shortDigest content).toList :=
  not_mem_shortDigest (by decide) content

theorem length_shortDigest (content : Bytes) : (shortDigest content).toList.length = 16 := by
  have size : (Sha256.hexDigest content).length = 64 := by
    simp [Sha256.hexDigest, Sha256.digestWords]
  rw [shortDigest, String.toList_ofList, List.length_take, size]
  rfl

end Store

theorem Asset.Payload.slash_not_mem_extension (payload : Payload) :
    '/' ∉ payload.extension.toList := by
  unfold Payload.extension
  split <;> decide

/-- The fields with images have no dot, no slash and no NUL in their names. -/
theorem Record.Category.free_of_mem_assetFields {category : Category} {field : String}
    (member : field ∈ category.assetFields) :
    '.' ∉ field.toList ∧ '/' ∉ field.toList ∧ '\x00' ∉ field.toList := by
  have common : ∀ field ∈ commonAssetFields,
      '.' ∉ field.toList ∧ '/' ∉ field.toList ∧ '\x00' ∉ field.toList := by
    decide
  have own : ∀ field ∈ category.ownAssetFields,
      '.' ∉ field.toList ∧ '/' ∉ field.toList ∧ '\x00' ∉ field.toList := by
    cases category <;> decide
  rcases List.mem_append.mp member with isCommon | isOwn
  · exact common field isCommon
  · exact own field isOwn

theorem Record.Category.slash_not_mem_assetFields {category : Category} {field : String}
    (member : field ∈ category.assetFields) : '/' ∉ field.toList :=
  (free_of_mem_assetFields member).2.1

end CertPress
