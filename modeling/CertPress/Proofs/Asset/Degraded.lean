import CertPress.Proofs.Asset.Fallback
import CertPress.Proofs.Files.Tidy

/-!
# Images that are missing

A final render that shows no image where a reference asks for one says so: the reference adds
exactly one warning, which tells of its field.  An image can be missed while it is decoded, while
it is stored, or while it is looked for below the roots, and a later step does not warn again of
what an earlier one missed.
-/

namespace CertPress

/-! ## The file of an address -/

namespace FilePath

variable {path : FilePath}

/-- The absolute path that leads through names. -/
def ofRoot (names : List String) : FilePath := (⟨"/"⟩ : FilePath).join (ofNames names)

theorem text_ofRoot {names : List String} (isName : ∀ name ∈ names, IsName name) :
    (ofRoot names).text = "/" ++ ofNames names := by
  rw [ofRoot, join_eq (isAbsolute_ofNames isName)]
  rfl

/-- An absolute path without its idle pieces is not longer. -/
theorem ofRoot_names_sublist (absolute : path.isAbsolute) :
    (ofRoot path.names).text.toList.Sublist path.text.toList := by
  obtain ⟨text⟩ := path
  rw [isAbsolute, beq_iff_eq] at absolute
  obtain ⟨rest, chars⟩ := List.head?_eq_some_iff.mp absolute
  have sameNames : (⟨text⟩ : FilePath).names = (⟨String.ofList rest⟩ : FilePath).names := by
    simp [names, pieces, chars, Text.split, isIdle]
  have shorter := tidy_sublist (String.ofList rest)
  rw [tidy, String.toList_ofList] at shorter
  rw [text_ofRoot fun name => isName_of_mem_names, sameNames, chars, String.toList_append]
  exact shorter.cons_cons '/'

end FilePath

namespace Disk

open FilePath (IsName ofNames ofRoot)

variable {disk : Disk} {path : FilePath} {names : List String}

theorem route_ofNames (isName : ∀ name ∈ names, IsName name) (some : names ≠ []) :
    route ⟨ofNames names⟩ = names := by
  have pieces_eq : (⟨ofNames names⟩ : FilePath).pieces = names.map String.toList := by
    rw [FilePath.pieces, ofNames, String.toList_ofList, Text.split_join (by simpa using some)]
    simpa using fun name member => (isName name member).2
  have kept : (names.map String.toList).filter (!List.isEmpty ·) = names.map String.toList := by
    rw [List.filter_eq_self]
    simpa using fun name member => (isName name member).1
  have noSlash : (⟨ofNames names⟩ : FilePath).endsWithSlash = false := by
    rw [Bool.eq_false_iff]
    intro slash
    obtain ⟨name, member, empty⟩ := List.mem_map.mp (pieces_eq ▸ FilePath.nil_mem_pieces slash)
    exact (isName name member).1 empty
  rw [route, noSlash, if_neg Bool.false_ne_true, pieces_eq, kept, List.map_map]
  simp [Function.comp_def]

/-- A path that leads somewhere is not refused, and leads there through its names. -/
theorem walk_of_locate {location : Location} (located : disk.locate path = .ok location) :
    refusal? path = none ∧ path.names.foldlM disk.step (disk.start path) = .ok location := by
  unfold locate at located
  split at located
  next => cases located
  next allowed =>
    split at located
    next => cases located
    next => exact ⟨allowed, filter_route path.text ▸ walk_filter located⟩

/-- A file is found by the names of its path. -/
theorem isFile_ofRoot_names (absolute : path.isAbsolute) (isFile : disk.isFile path) :
    disk.isFile (ofRoot path.names) := by
  obtain ⟨location, content, executable, found⟩ := isFile_iff.mp isFile
  obtain ⟨located, isThere⟩ := find_eq_ok.mp found
  obtain ⟨allowed, walked⟩ := walk_of_locate located
  rw [start, if_pos absolute] at walked
  have isName : ∀ name ∈ path.names, IsName name := fun _ => FilePath.isName_of_mem_names
  have some : path.names ≠ [] := by
    intro none
    rw [none] at walked
    cases walked
    cases isThere
  have filled : ofNames path.names ≠ "" := by
    intro empty
    have sameRoute := route_ofNames isName some
    rw [empty] at sameRoute
    exact some sameRoute.symm
  refine isFile_iff.mpr ⟨location, content, executable, find_eq_ok.mpr ⟨?_, isThere⟩⟩
  refine (locate_join_eq_ok filled (FilePath.isAbsolute_ofNames isName)).mpr
    ⟨refusal?_of_sublist (FilePath.ofRoot_names_sublist absolute) allowed, [], rfl, ?_⟩
  rw [route_ofNames isName some]
  exact walked

end Disk

namespace Asset

open Settings (RenderSettings)
open FilePath (fileNames? ofRoot)

/-- An address leads to a file. -/
def Shows (address : String) (disk : Disk) : Prop :=
  ∃ names, fileNames? address = some names ∧ disk.isFile (ofRoot names)

/-- An address of a final render that shows nothing: it is empty, or it is the address of a file
that is not there. -/
def Broken (address : String) (disk : Disk) : Prop :=
  address = "" ∨ ∃ names, fileNames? address = some names ∧ ¬ disk.isFile (ofRoot names)

/-- Exactly one warning was added, and it tells of the field. -/
def WarnedOnce (field : String) (before after : Progress) : Prop :=
  ∃ warning, after.warnings = before.warnings ++ [warning] ∧ warning.field = field

theorem not_broken_of_shows {address : String} {disk : Disk} (shows : Shows address disk) :
    ¬ Broken address disk := by
  obtain ⟨names, isAddress, isFile⟩ := shows
  rintro (rfl | ⟨others, isOther, noFile⟩)
  · cases isAddress
  · cases isAddress.symm.trans isOther
    exact noFile isFile

theorem warnedOnce_warn (field reference reason : String) (progress : Progress) :
    WarnedOnce field progress (progress.warn field reference reason) := ⟨_, rfl, rfl⟩

/-- What a final render makes of a reference: the address of a file that is there, without a
warning, or exactly one warning. -/
def ShownOrWarned (field : String) (before : Progress) (result : String × Progress) : Prop :=
  (Shows result.1 result.2.disk ∧ result.2.warnings = before.warnings) ∨
    WarnedOnce field before result.2

/-! ## Each kind of reference -/

section Kinds

variable {settings : RenderSettings} (absolute : ∀ directory ∈ directories settings,
  directory.isAbsolute) (owner : Uuid) (field : String) (progress : Progress)

/-- A stored path that names a file below no root is warned of once. -/
theorem resolveStored_missing (resolver : Resolver) {path : String}
    (absolute : resolver.settings.assetRoots.primary.directory.isAbsolute)
    (missing : ∀ root ∈ resolver.roots, Store.contains root.directory
      (Resolver.withoutMount resolver.roots path) progress.disk = false) :
    WarnedOnce field progress (resolver.resolveStored field path progress).2 := by
  have nowhere : (resolver.roots.find? fun root => Store.contains root.directory
      (Resolver.withoutMount resolver.roots path) progress.disk) = none := by
    simpa using missing
  unfold Resolver.resolveStored
  simp only [nowhere, Option.isSome_none, Bool.false_eq_true, if_false, Option.getD_none]
  split
  next => exact warnedOnce_warn _ _ _ _
  next =>
    rw [FilePath.fileUrl?, if_pos (FilePath.isAbsolute_join absolute _)]
    exact warnedOnce_warn _ _ _ _

include absolute

theorem resolveStored_shownOrWarned (path : String) :
    ShownOrWarned field progress
      ((⟨settings, .final, owner⟩ : Resolver).resolveStored field path progress) := by
  cases first : settings.assetRoots.inOrder.find? fun root => Store.contains root.directory
      (Resolver.withoutMount settings.assetRoots.inOrder path) progress.disk with
  | some root =>
      have isAbsolute :=
        absolute _ (directory_mem_directories (List.mem_of_find?_eq_some first))
      obtain ⟨address, isAddress, result⟩ :=
        resolveStored_found ⟨settings, .final, owner⟩ field rfl first isAbsolute
      have contains := List.find?_some first
      obtain ⟨-, isFile⟩ := Store.contains_iff.mp contains
      have isThere : progress.disk.isFile (ofRoot (root.directory.join
          (Resolver.withoutMount settings.assetRoots.inOrder path)).names) :=
        Disk.isFile_ofRoot_names (FilePath.isAbsolute_join isAbsolute _) isFile
      rw [result]
      exact .inl ⟨⟨_, FilePath.fileNames?_fileUrl? isAddress, isThere⟩, rfl⟩
  | none =>
      have missing : ∀ root ∈ settings.assetRoots.inOrder, Store.contains root.directory
          (Resolver.withoutMount settings.assetRoots.inOrder path) progress.disk = false := by
        simpa using first
      exact .inr (resolveStored_missing field progress ⟨settings, .final, owner⟩
        (absolute _ (.head _)) missing)

theorem resolveEmbedded_shownOrWarned (address : String) :
    ShownOrWarned field progress
      ((⟨settings, .final, owner⟩ : Resolver).resolveEmbedded field address progress) := by
  unfold Resolver.resolveEmbedded
  split
  next => exact .inr (warnedOnce_warn _ _ _ _)
  next payload isPayload =>
    split
    next path disk saved =>
      have outcome :=
        resolveStored_shownOrWarned absolute owner field { progress with disk } path
      -- What is noted as stored is no part of what is told about the image.
      generalize (⟨settings, .final, owner⟩ : Resolver).resolveStored field path
        { progress with disk } = result at outcome ⊢
      exact outcome
    next fault disk failed => exact .inr (warnedOnce_warn _ _ _ { progress with disk })

/-- A final render shows a file for a reference that is no address elsewhere, or it warns exactly
once. -/
theorem resolve_shownOrWarned {reference : String} (shown : Text.blank reference = false)
    (notExternal : ∀ address, Reference.classify reference ≠ .external address) :
    ShownOrWarned field progress
      ((⟨settings, .final, owner⟩ : Resolver).resolve field reference progress) := by
  unfold Resolver.resolve
  rw [if_neg (by simp [shown])]
  cases classified : Reference.classify reference with
  | stored path => exact resolveStored_shownOrWarned absolute owner field progress path
  | embedded address => exact resolveEmbedded_shownOrWarned absolute owner field progress address
  | external address => exact absurd classified (notExternal address)
  | ephemeral address => exact .inr (warnedOnce_warn _ _ _ _)

/-- A reference that a final render shows nothing for adds exactly one warning, which tells of its
field, and so does a stored path in a preview whose file is below no root. -/
theorem resolve_warns {reference : String} (shown : Text.blank reference = false)
    (notExternal : ∀ address, Reference.classify reference ≠ .external address) :
    (∀ address after,
      (⟨settings, .final, owner⟩ : Resolver).resolve field reference progress = (address, after) →
      Broken address after.disk → WarnedOnce field progress after) ∧
    (∀ path address after, Reference.classify reference = .stored path →
      (∀ root ∈ settings.assetRoots.inOrder, Store.contains root.directory
        (Resolver.withoutMount settings.assetRoots.inOrder path) progress.disk = false) →
      (⟨settings, .preview, owner⟩ : Resolver).resolve field reference progress =
        (address, after) →
      WarnedOnce field progress after) := by
  constructor
  · intro address after result broken
    have outcome := resolve_shownOrWarned absolute owner field progress shown notExternal
    rw [result] at outcome
    rcases outcome with ⟨shows, -⟩ | warned
    · exact absurd broken (not_broken_of_shows shows)
    · exact warned
  · intro path address after stored missing result
    have asStored : (⟨settings, .preview, owner⟩ : Resolver).resolve field reference progress =
        (⟨settings, .preview, owner⟩ : Resolver).resolveStored field path progress := by
      rw [Resolver.resolve, if_neg (by simp [shown]), stored]
    rw [asStored] at result
    have warned := resolveStored_missing field progress ⟨settings, .preview, owner⟩
      (absolute _ (.head _)) missing
    rw [result] at warned
    exact warned

end Kinds

/-- The case of a stored path after a warning that was added before. -/
theorem resolve_warns_missing :
    ∃ after, (⟨rootedSettings, .final, default⟩ : Resolver).resolve "spa_logo" "logos/a.png"
        ((Progress.start .empty).warn "signature" "b.png" "") =
          ("file:///srv/media/logos/a.png", after) ∧
      Broken "file:///srv/media/logos/a.png" after.disk ∧
      WarnedOnce "spa_logo" ((Progress.start .empty).warn "signature" "b.png" "") after := by
  have absolute : ∀ directory ∈ directories rootedSettings, directory.isAbsolute := by decide
  have notExternal : ∀ address, Reference.classify "logos/a.png" ≠ .external address := by
    have stored : Reference.classify "logos/a.png" = .stored "logos/a.png" := by decide
    simp [stored]
  obtain ⟨whenFinal, -⟩ := resolve_warns absolute default "spa_logo"
    ((Progress.start .empty).warn "signature" "b.png" "") (by decide) notExternal
  have result : (⟨rootedSettings, .final, default⟩ : Resolver).resolve "spa_logo" "logos/a.png"
      ((Progress.start .empty).warn "signature" "b.png" "") =
        ("file:///srv/media/logos/a.png", _) := Prod.ext (by decide) rfl
  have written : (⟨"/srv/media/logos/a.png"⟩ : FilePath).fileUrl? =
      some "file:///srv/media/logos/a.png" := by decide
  have broken : Broken "file:///srv/media/logos/a.png" Disk.empty :=
    .inr ⟨_, FilePath.fileNames?_fileUrl? written, by decide +kernel⟩
  exact ⟨_, result, broken, whenFinal _ _ result broken⟩

end Asset

end CertPress
