import CertPress.Proofs.Asset.Fallback
import CertPress.Proofs.Files.Tidy
import CertPress.Proofs.Url.Read

/-!
# Own web addresses

The web address of a key below a mount is read back: it is served by the server
itself, and its decoded path is the mount and the key, without the pieces of the key
that name nothing.  A final render turns it into the address of the file below the
static directory, or below the first root that has the key.
-/

namespace CertPress

namespace Text

theorem isBlank_of_isInk {char : Char} (ink : Url.isInk char) : isBlank char = false := by
  simp only [Url.isInk, Bool.and_eq_true, decide_eq_true_eq] at ink
  rw [Bool.eq_false_iff]
  intro blank
  simp only [isBlank, Bool.or_eq_true, Bool.and_eq_true, decide_eq_true_eq, beq_iff_eq] at blank
  omega

end Text

namespace Asset

open Settings (AssetRoot RenderSettings)
open Url (Origin)

/-- Whether a mount is one segment of a path that is shown in addresses. -/
@[mk_iff] structure IsMount (mount : String) : Prop where
  oneSegment : '/' ∉ mount.toList
  shown : Url.Path.Shown mount.toList

instance (mount : String) : Decidable (IsMount mount) := decidable_of_iff' _ (isMount_iff mount)

/-- It does not start with a slash. -/
theorem IsMount.exists_cons {mount : String} (isMount : IsMount mount) :
    ∃ first rest, mount.toList = first :: rest ∧ first ≠ '/' := by
  obtain ⟨first, rest, chars⟩ := List.exists_cons_of_ne_nil isMount.shown.filled
  refine ⟨first, rest, chars, ?_⟩
  rintro rfl
  exact isMount.oneSegment (chars ▸ .head _)

/-- The segments that the web address of a key below a mount shows. -/
def segments (mount key : String) : List (List Char) :=
  mount.toList :: (⟨key⟩ : FilePath).names.map String.toList

theorem segments_ne_nil (mount key : String) : segments mount key ≠ [] := List.cons_ne_nil _ _

section Shown

variable {mount key : String} (isMount : IsMount mount) (isKey : IsKey key)
  (visible : ∀ char ∈ key.toList, char ≠ '\t' ∧ char ≠ '\n' ∧ char ≠ '\r')

include isMount isKey visible

/-- All of them are shown as they are. -/
theorem shown_segments : ∀ segment ∈ segments mount key, Url.Path.Shown segment := by
  obtain ⟨filled, inner⟩ := isKey
  intro segment member
  rcases List.mem_cons.mp member with rfl | inNames
  · exact isMount.shown
  · have inKey : ∀ char ∈ segment, char ∈ key.toList := by
      intro char inSegment
      apply (FilePath.tidy_sublist key).subset
      rw [FilePath.toList_tidy]
      exact Text.mem_join_of_mem inNames inSegment
    obtain ⟨name, isName, rfl⟩ := List.mem_map.mp inNames
    exact {
      filled := FilePath.ne_empty_of_mem_names isName
      notHere := FilePath.ne_dot_of_mem_names isName
      notUp := by
        intro up
        obtain rfl : name = ".." := String.toList_injective up
        exact (FilePath.isInner_iff.mp inner).2.2 isName
      visible := fun char inName => visible char (inKey char inName) }

end Shown

/-! ## The address -/

/-- The segments of a mount and a key, without dot segments. -/
theorem filter_segments {mount key : String} (isMount : IsMount mount) (isKey : IsKey key) :
    (((Text.split '/' mount.toList ++ Text.split '/' key.toList).filter (!List.isEmpty ·)).filter
      fun segment => segment != ['.'] && segment != ['.', '.']) = segments mount key := by
  obtain ⟨-, inner⟩ := isKey
  have mountSplit : Text.split '/' mount.toList = [mount.toList] :=
    Text.split_eq_singleton isMount.oneSegment
  obtain ⟨filled, notHere, notUp, -⟩ := isMount.shown
  rw [mountSplit, List.filter_filter, List.singleton_append, List.filter_cons_of_pos, segments,
    FilePath.map_toList_names, FilePath.pieces]
  · congr 1
    refine List.filter_congr fun piece inPieces => ?_
    have pieceNotUp : piece ≠ ['.', '.'] := by
      rintro rfl
      have isName : ".." ∈ (⟨key⟩ : FilePath).names :=
        List.mem_map.mpr ⟨['.', '.'], List.mem_filter.mpr ⟨inPieces, by decide⟩, rfl⟩
      exact (FilePath.isInner_iff.mp inner).2.2 isName
    rw [Bool.eq_iff_iff]
    simp [FilePath.isIdle, pieceNotUp, and_comm]
  · simp [filled, notHere, notUp]

section Address

variable {settings : RenderSettings} {address : Url.Address}
  (base : Url.ofText? settings.baseUrl = some address.url)
  {mount key : String} (isMount : IsMount mount) (isKey : IsKey key)
  (visible : ∀ char ∈ key.toList, char ≠ '\t' ∧ char ≠ '\n' ∧ char ≠ '\r')

/-- The address of a key below a mount. -/
def keyAddress (address : Url.Address) {mount key : String} (isMount : IsMount mount)
    (isKey : IsKey key)
    (visible : ∀ char ∈ key.toList, char ≠ '\t' ∧ char ≠ '\n' ∧ char ≠ '\r') : Url.Address :=
  address.below (segments mount key) (shown_segments isMount isKey visible)
    (segments_ne_nil mount key)

include base isMount isKey visible

/-- The web address of a key below a mount. -/
theorem webAddress_eq : Resolver.webAddress settings mount key =
    (keyAddress address isMount isKey visible).url.text := by
  rw [Resolver.webAddress, base]
  dsimp only
  rw [address.extend_url (filter_segments isMount isKey) (shown_segments isMount isKey visible)
    (segments_ne_nil mount key), keyAddress]

/-- It is read back. -/
theorem ofText?_webAddress : Url.ofText? (Resolver.webAddress settings mount key) =
    some (keyAddress address isMount isKey visible).url := by
  rw [webAddress_eq base isMount isKey visible]
  exact Url.Address.ofText?_text _

/-- Below an address without percent groups in its path, it serves the mount and the
key, without the pieces of the key that name nothing. -/
theorem servedPath?_webAddress
    (plain : Url.Path.IsPlain address.url.path.chars) :
    Resolver.servedPath? settings (Resolver.webAddress settings mount key) =
      some (mount ++ "/" ++ FilePath.tidy key) := by
  have same : (keyAddress address isMount isKey visible).url.sameOrigin address.url = true := by
    obtain ⟨usual, isUsual⟩ : ∃ usual, Url.usualPort? address.scheme = some usual := by
      rcases address.web with scheme | scheme <;> rw [scheme]
      · exact ⟨80, by decide⟩
      · exact ⟨443, by decide⟩
    simp [Url.sameOrigin, Url.origin?, Url.Address.url, keyAddress, Url.Address.below, isUsual]
  obtain ⟨count, after⟩ := Url.Path.after?_stem plain (segments_ne_nil mount key)
  have start : Text.dropLeading '/'
      (List.replicate count '/' ++ '/' :: Text.join '/' (segments mount key)) =
        (mount ++ "/" ++ FilePath.tidy key).toList := by
    obtain ⟨first, rest, chars, notSlash⟩ := isMount.exists_cons
    obtain ⟨char, piece, others, names_eq, -⟩ := FilePath.exists_names_cons isKey.1 isKey.2
    have joined : Text.join '/' (segments mount key) =
        (mount ++ "/" ++ FilePath.tidy key).toList := by
      rw [segments, names_eq]
      simp [Text.join, FilePath.toList_tidy, names_eq]
    rw [joined, Text.dropLeading_replicate]
    simp [Text.dropLeading, chars, notSlash]
  rw [Resolver.servedPath?, ofText?_webAddress base isMount isKey visible, base]
  have served : Text.after? (Text.dropTrailing '/' address.url.path.chars)
      (Text.decodeLossy (Text.Percent.decode
        (keyAddress address isMount isKey visible).url.path.chars)) =
        some (List.replicate count '/' ++ '/' :: Text.join '/' (segments mount key)) := after
  simp only [Option.bind_eq_bind, Option.bind_some, same, Bool.not_true, Bool.false_eq_true,
    if_false, served, start, Option.pure_def, String.ofList_toList]

theorem trimmed_webAddress :
    Text.trimmed (Resolver.webAddress settings mount key) =
      Resolver.webAddress settings mount key := by
  have shown : ∀ char ∈ (Resolver.webAddress settings mount key).toList,
      Text.isBlank char = false := by
    rw [webAddress_eq base isMount isKey visible]
    exact fun _ member => Text.isBlank_of_isInk (Url.Address.isInk_of_mem_text _ member)
  rw [Text.trimmed, Text.trim_eq_self shown, String.ofList_toList]

/-- A web address is an address elsewhere. -/
theorem classify_webAddress :
    Reference.classify (Resolver.webAddress settings mount key) =
      .external (Resolver.webAddress settings mount key) := by
  obtain ⟨rest, chars⟩ : ∃ rest, (Resolver.webAddress settings mount key).toList =
      address.scheme ++ ':' :: '/' :: '/' :: rest := by
    rw [webAddress_eq base isMount isKey visible, Url.Address.toList_text]
    exact ⟨_, rfl⟩
  rw [Reference.classify, trimmed_webAddress base isMount isKey visible]
  rcases address.web with scheme | scheme <;>
    simp [Reference.startsAs, Text.lowerAscii, chars, scheme]

end Address

/-! ## The file -/

/-- A mount of one segment is taken off the path of an address below it only. -/
theorem belowMount?_served {mount other path : String} (oneSegment : '/' ∉ mount.toList)
    (otherSegment : '/' ∉ other.toList) :
    Resolver.belowMount? other (mount ++ "/" ++ path) =
      if other = mount then some path else none := by
  split
  next same => exact belowMount?_eq_some_iff.mpr (same ▸ rfl)
  next different =>
    refine belowMount?_eq_none_iff.mpr fun rest same => different ?_
    have chars : mount.toList ++ '/' :: path.toList = other.toList ++ '/' :: rest.toList := by
      simpa using congrArg String.toList same
    exact String.toList_injective
      ((Text.append_separator_inj oneSegment otherSegment).mp chars).1.symm

/-- The mount of a root is taken off a stored path once. -/
theorem withoutMount_served {roots : List AssetRoot} {mount path : String}
    (isMount : IsMount mount) (segments : ∀ root ∈ roots, '/' ∉ root.mount.toList)
    (mounted : ∃ root ∈ roots, root.mount = mount)
    (clear : Text.trimmed (mount ++ "/" ++ path) = mount ++ "/" ++ path) :
    Resolver.withoutMount roots (mount ++ "/" ++ path) = path := by
  have relative : (⟨mount ++ "/" ++ path⟩ : FilePath).isAbsolute = false := by
    obtain ⟨first, rest, chars, notSlash⟩ := isMount.exists_cons
    simp [FilePath.isAbsolute, chars, notSlash]
  have below {root : AssetRoot} (inRoots : root ∈ roots) :
      Resolver.belowMount? root.mount (mount ++ "/" ++ path) =
        if root.mount = mount then some path else none :=
    belowMount?_served isMount.oneSegment (segments root inRoots)
  rw [Resolver.withoutMount, clear, FilePath.withoutLeading_eq_self relative]
  cases found : roots.findSome? fun root =>
      Resolver.belowMount? root.mount (mount ++ "/" ++ path) with
  | none =>
      obtain ⟨root, inRoots, same⟩ := mounted
      have absent := List.findSome?_eq_none_iff.mp found root inRoots
      rw [below inRoots, if_pos same] at absent
      exact absurd absent (by simp)
  | some rest =>
      obtain ⟨root, inRoots, isBelow⟩ := List.exists_of_findSome?_eq_some found
      rw [below inRoots] at isBelow
      split at isBelow
      next => exact (Option.some.inj isBelow).symm
      next => exact absurd isBelow (by simp)

/-- A file has one address, whichever idle pieces its key has. -/
theorem fileUrl?_join_tidy {directory : FilePath} {key : String} (isKey : IsKey key) :
    (directory.join (FilePath.tidy key)).fileUrl? = (directory.join key).fileUrl? := by
  obtain ⟨filled, inner⟩ := isKey
  rw [FilePath.fileUrl?, FilePath.fileUrl?,
    FilePath.isAbsolute_join_eq (FilePath.isAbsolute_tidy key),
    FilePath.isAbsolute_join_eq (FilePath.isInner_iff.mp inner).1, FilePath.fileChars,
    FilePath.fileChars, FilePath.names_join_tidy filled inner]

section Localize

variable {resolver : Resolver} (final : resolver.mode = .final) {address : Url.Address}
  (base : Url.ofText? resolver.settings.baseUrl = some address.url)
  {mount key : String} (isMount : IsMount mount) (isKey : IsKey key)
  (visible : ∀ char ∈ key.toList, char ≠ '\t' ∧ char ≠ '\n' ∧ char ≠ '\r')
  (field : String) (progress : Progress)

include final base isMount isKey visible

/-- A final render looks for the file of an own address. -/
theorem resolve_webAddress :
    resolver.resolve field (Resolver.webAddress resolver.settings mount key) progress =
      resolver.localize field (Resolver.webAddress resolver.settings mount key) progress := by
  have trimmed := trimmed_webAddress base isMount isKey visible
  have filled : Resolver.webAddress resolver.settings mount key ≠ "" := by
    intro empty
    have classified := classify_webAddress base isMount isKey visible
    rw [empty] at classified
    exact absurd classified (by decide)
  rw [Resolver.resolve, if_neg (by simp [Text.blank_eq_false filled trimmed]),
    classify_webAddress base isMount isKey visible, final]

variable (plain : Url.Path.IsPlain address.url.path.chars)

include plain

/-- An address below the static mount is that of the file below the static
directory. -/
theorem resolve_below_static
    (isStatic : Text.withoutSurrounding '/' resolver.settings.staticMount = mount)
    (absolute : resolver.settings.staticDirectory.isAbsolute) :
    ∃ result, (resolver.settings.staticDirectory.join key).fileUrl? = some result ∧
      resolver.resolve field (Resolver.webAddress resolver.settings mount key) progress =
        (result, progress) := by
  have tidyRelative := FilePath.isAbsolute_tidy key
  have written : (resolver.settings.staticDirectory.join (FilePath.tidy key)).fileUrl? =
      some ("file://" ++ String.ofList
        (resolver.settings.staticDirectory.join (FilePath.tidy key)).fileChars) := by
    rw [FilePath.fileUrl?, if_pos (FilePath.isAbsolute_join absolute _)]
  refine ⟨_, (fileUrl?_join_tidy isKey).symm.trans written, ?_⟩
  rw [resolve_webAddress final base isMount isKey visible, Resolver.localize,
    servedPath?_webAddress base isMount isKey visible plain]
  dsimp only
  rw [isStatic, belowMount?_served isMount.oneSegment isMount.oneSegment, if_pos rfl]
  simp [Resolver.staticFile, final, FilePath.withoutLeading_eq_self tidyRelative, written]

/-- An address below the mount of a root is that of the file below the first root
that has the key. -/
theorem resolve_below_root
    (notStatic : Text.withoutSurrounding '/' resolver.settings.staticMount ≠ mount)
    (staticSegment : '/' ∉ (Text.withoutSurrounding '/' resolver.settings.staticMount).toList)
    (segments : ∀ root ∈ resolver.roots, '/' ∉ root.mount.toList)
    (mounted : ∃ root ∈ resolver.roots, root.mount = mount)
    (clear : Text.trimmed (mount ++ "/" ++ FilePath.tidy key) = mount ++ "/" ++ FilePath.tidy key)
    {home : AssetRoot} (first : (resolver.roots.find? fun root =>
      Store.contains root.directory (FilePath.tidy key) progress.disk) = some home)
    (absolute : home.directory.isAbsolute) :
    ∃ result, (home.directory.join key).fileUrl? = some result ∧
      resolver.resolve field (Resolver.webAddress resolver.settings mount key) progress =
        (result, progress) := by
  have unmounted : FilePath.tidy key =
      Resolver.withoutMount resolver.roots (mount ++ "/" ++ FilePath.tidy key) :=
    (withoutMount_served isMount segments mounted clear).symm
  obtain ⟨result, written, stored⟩ := resolveStored_found resolver field unmounted first absolute
  simp only [addressBelow?, final] at written
  refine ⟨result, (fileUrl?_join_tidy isKey).symm.trans written, ?_⟩
  rw [resolve_webAddress final base isMount isKey visible, Resolver.localize,
    servedPath?_webAddress base isMount isKey visible plain]
  dsimp only
  rw [belowMount?_served isMount.oneSegment staticSegment, if_neg notStatic]
  dsimp only
  rw [if_pos, stored]
  obtain ⟨root, inRoots, rfl⟩ := mounted
  rw [List.any_eq_true]
  refine ⟨root, inRoots, ?_⟩
  rw [belowMount?_served isMount.oneSegment isMount.oneSegment, if_pos rfl, Option.isSome_some]

end Localize

/-! ## The root of a server -/

section Root

variable {resolver : Resolver} (final : resolver.mode = .final) {origin : Origin}
  (base : Url.ofText? resolver.settings.baseUrl = some (origin.url [[]]))
  {mount key : String} (isMount : IsMount mount) (isKey : IsKey key)
  (visible : ∀ char ∈ key.toList, char ≠ '\t' ∧ char ≠ '\n' ∧ char ≠ '\r')
  (field : String) (progress : Progress)

include final base isMount isKey visible

/-- The case of the static mount of a server that is at its root. -/
theorem resolve_static
    (isStatic : Text.withoutSurrounding '/' resolver.settings.staticMount = mount)
    (absolute : resolver.settings.staticDirectory.isAbsolute) :
    ∃ result, (resolver.settings.staticDirectory.join key).fileUrl? = some result ∧
      resolver.resolve field (Resolver.webAddress resolver.settings mount key) progress =
        (result, progress) := by
  have atRoot : Url.ofText? resolver.settings.baseUrl = some origin.root.url := base
  exact resolve_below_static final atRoot isMount isKey visible field progress
    origin.isPlain_root isStatic absolute

/-- The case of the mount of a root. -/
theorem resolve_root
    (notStatic : Text.withoutSurrounding '/' resolver.settings.staticMount ≠ mount)
    (staticSegment : '/' ∉ (Text.withoutSurrounding '/' resolver.settings.staticMount).toList)
    (segments : ∀ root ∈ resolver.roots, '/' ∉ root.mount.toList)
    (mounted : ∃ root ∈ resolver.roots, root.mount = mount)
    (clear : Text.trimmed (mount ++ "/" ++ FilePath.tidy key) = mount ++ "/" ++ FilePath.tidy key)
    {home : AssetRoot} (first : (resolver.roots.find? fun root =>
      Store.contains root.directory (FilePath.tidy key) progress.disk) = some home)
    (absolute : home.directory.isAbsolute) :
    ∃ result, (home.directory.join key).fileUrl? = some result ∧
      resolver.resolve field (Resolver.webAddress resolver.settings mount key) progress =
        (result, progress) := by
  have atRoot : Url.ofText? resolver.settings.baseUrl = some origin.root.url := base
  exact resolve_below_root final atRoot isMount isKey visible field progress
    origin.isPlain_root notStatic staticSegment segments mounted clear first absolute

end Root

end Asset

end CertPress
