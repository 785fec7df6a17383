import CertPress.Proofs.Service.OwnAddress

/-!
# Addresses that previews show

The web address at which a preview shows a stored image leads a final render to the file
that the reference itself leads it to, and nothing is noted on either way.  This needs a
public address whose path has no percent groups: the path of an address is decoded before
it is compared with that of the public address, which is not.
-/

namespace CertPress

namespace Asset

/-- The path that a key names ends the key. -/
theorem Names.suffix {key relative : String} {roots : List Settings.AssetRoot}
    (names : Names key roots relative) : relative.toList <:+ key.toList := by
  induction names with
  | itself => exact List.suffix_refl _
  | @mounted root others relative same =>
      rw [same, String.toList_append]
      exact List.suffix_append _ _
  | unmounted free names hypothesis => exact hypothesis

theorem suffix_of_names {path relative : String} {roots : List Settings.AssetRoot}
    (names : Names (Text.withoutLeading '/' path) roots relative) :
    relative.toList <:+ path.toList := by
  have behind : (Text.withoutLeading '/' path).toList <:+ path.toList := by
    rw [Text.withoutLeading, String.toList_ofList]
    exact List.dropWhile_suffix _
  exact names.suffix.trans behind

section Stored

variable {reference path relative : String} (stored : Reference.classify reference = .stored path)

include stored

theorem eq_trimmed_of_stored : path = Text.trimmed reference := by
  have text := Reference.text_classify reference
  rwa [stored] at text

theorem trimmed_of_stored : Text.trimmed path = path := by
  rw [eq_trimmed_of_stored stored, Text.trimmed_trimmed]

variable {roots : List Settings.AssetRoot}
  (names : Names (Text.withoutLeading '/' path) roots relative)

include names

theorem withoutMount_of_names : relative = Resolver.withoutMount roots path := by
  rw [Resolver.withoutMount, trimmed_of_stored stored, ← names_iff]
  exact names

/-- The last character of the path that a reference names is not blank. -/
theorem isBlank_getLast?_of_names {char : Char} (last : relative.toList.getLast? = some char) :
    Text.isBlank char = false := by
  obtain ⟨front, whole⟩ := suffix_of_names names
  have pathLast : path.toList.getLast? = some char := by
    rw [← whole, List.getLast?_append, last]
    rfl
  rw [← trimmed_of_stored stored, Text.trimmed, String.toList_ofList] at pathLast
  exact Text.isBlank_getLast?_trimEnd pathLast

/-- A reference is looked for below the roots if the path that it names is not
empty. -/
theorem resolve_stored (resolver : Resolver) (filled : relative ≠ "") (field : String)
    (progress : Progress) :
    resolver.resolve field reference progress = resolver.resolveStored field path progress := by
  have shown : Text.blank reference = false := by
    apply Text.blank_eq_false_of_trimmed
    rw [← eq_trimmed_of_stored stored]
    rintro rfl
    exact filled (String.toList_injective (List.suffix_nil.mp (suffix_of_names names)))
  rw [Resolver.resolve, if_neg (by simp [shown]), stored]

end Stored

end Asset

namespace Service

open Asset (IsMount Names Resolver Reference)
open Settings (AssetRoot RenderSettings)

/-- The first of two roots that has the file of a key has it without the idle pieces of
the key, and no root before it does. -/
theorem find?_tidy {settings : RenderSettings} {key : String} {disk : Disk} {home : AssetRoot}
    (first : (settings.assetRoots.inOrder.find? fun root =>
      Store.contains root.directory key disk) = some home)
    (allowed : Disk.refusal? (settings.assetRoots.primary.directory.join key) = none) :
    (settings.assetRoots.inOrder.find? fun root =>
      Store.contains root.directory (FilePath.tidy key) disk) = some home := by
  have contained : Store.contains home.directory key disk := by simpa using List.find?_some first
  have tidyContained := Store.contains_tidy contained
  rw [Settings.AssetRoots.inOrder] at first ⊢
  cases inPrimary : Store.contains settings.assetRoots.primary.directory key disk with
  | true =>
      rw [List.find?_cons_of_pos (by simpa using inPrimary)] at first
      obtain rfl := Option.some.inj first
      rw [List.find?_cons_of_pos (by simpa using tidyContained)]
  | false =>
      have notTidy : Store.contains settings.assetRoots.primary.directory (FilePath.tidy key)
          disk = false := by
        rw [Bool.eq_false_iff] at inPrimary ⊢
        exact fun inTidy => inPrimary (Store.contains_of_tidy contained allowed inTidy)
      rw [List.find?_cons_of_neg (by simp [inPrimary]), List.find?_singleton] at first
      obtain ⟨-, rfl⟩ : _ ∧ settings.assetRoots.legacy = home := by simpa using first
      rw [List.find?_cons_of_neg (by simp [notTidy]),
        List.find?_cons_of_pos (by simpa using tidyContained)]

/-- A path below a mount is left as it is when it is trimmed, if neither the mount
starts with a blank nor the key of a file ends with one. -/
theorem trimmed_below {mount key : String} {root : FilePath} {disk : Disk}
    (contained : Store.contains root key disk) (filled : mount ≠ "")
    (first : ∀ char ∈ mount.toList.head?, Text.isBlank char = false)
    (last : ∀ char ∈ key.toList.getLast?, Text.isBlank char = false) :
    Text.trimmed (mount ++ "/" ++ FilePath.tidy key) = mount ++ "/" ++ FilePath.tidy key := by
  obtain ⟨char, rest, chars⟩ : ∃ char rest, mount.toList = char :: rest :=
    List.exists_cons_of_ne_nil (by simpa using filled)
  obtain ⟨⟨someKey, inner⟩, -⟩ := Store.contains_iff.mp contained
  have someTidy : (FilePath.tidy key).toList ≠ [] := by
    simpa using (FilePath.isInner_tidy someKey inner).1
  have whole : Text.trim (mount ++ "/" ++ FilePath.tidy key).toList =
      (mount ++ "/" ++ FilePath.tidy key).toList := by
    apply Text.trim_eq_self_of_ends
    · simpa [chars] using first
    · rw [String.toList_append, List.getLast?_append, List.getLast?_eq_some_getLast someTidy]
      have atEnd := Store.getLast?_tidy contained
      rw [List.getLast?_eq_some_getLast someTidy] at atEnd
      simpa [← atEnd] using last
  rw [Text.trimmed, whole, String.ofList_toList]

/-- The address at which a preview shows a stored image leads a final render to the file
that the reference leads it to.  The path of the public address has no percent groups,
and the mount of the root that has the file is shown in addresses and is not trimmed. -/
theorem resolve_preview {settings : RenderSettings} {url : Url}
    (base : Url.ofText? settings.baseUrl = some url) (web : Url.IsWeb url.scheme)
    (settled : ∀ authority ∈ url.authority, ∀ host ∈ authority.host,
      Url.Host.ofSpecial? host.chars = some host)
    (plain : Url.Path.IsPlain url.path.chars)
    (absolute : ∀ directory ∈ Asset.directories settings, directory.isAbsolute)
    (mounted : Mounted settings) {reference path relative : String}
    (stored : Reference.classify reference = .stored path)
    (names : Names (Text.withoutLeading '/' path) settings.assetRoots.inOrder relative)
    (visible : ∀ char ∈ relative.toList, char ≠ '\t' ∧ char ≠ '\n' ∧ char ≠ '\r')
    {before progress : Asset.Progress} (sameDisk : before.disk = progress.disk)
    {home : AssetRoot} (first : (settings.assetRoots.inOrder.find? fun root =>
      Store.contains root.directory relative progress.disk) = some home)
    (allowed : Disk.refusal? (settings.assetRoots.primary.directory.join relative) = none)
    (isMount : IsMount home.mount)
    (start : ∀ char ∈ home.mount.toList.head?, Text.isBlank char = false)
    (shownOwner owner : Uuid) (shownField field : String) :
    ∃ shown address,
      (⟨settings, .preview, shownOwner⟩ : Resolver).resolve shownField reference before =
        (shown, before) ∧
      (home.directory.join relative).fileUrl? = some address ∧
      (⟨settings, .final, owner⟩ : Resolver).resolve field shown progress =
        (address, progress) ∧
      (⟨settings, .final, owner⟩ : Resolver).resolve field reference progress =
        (address, progress) := by
  obtain ⟨server, rfl⟩ := Url.exists_address base web settled
  have contained : Store.contains home.directory relative progress.disk := by
    simpa using List.find?_some first
  obtain ⟨isKey, -⟩ := Store.contains_iff.mp contained
  have inRoots : home ∈ settings.assetRoots.inOrder := List.mem_of_find?_eq_some first
  have isAbsolute := absolute _ (Asset.directory_mem_directories inRoots)
  have unmounted := Asset.withoutMount_of_names stored names
  have firstBefore : (settings.assetRoots.inOrder.find? fun root =>
      Store.contains root.directory relative before.disk) = some home := sameDisk ▸ first
  obtain ⟨shown, shown_eq, previewed⟩ := Asset.resolveStored_found
    ⟨settings, .preview, shownOwner⟩ shownField unmounted firstBefore isAbsolute
  have shown_eq : shown = Resolver.webAddress settings home.mount relative :=
    (Option.some.inj shown_eq).symm
  obtain ⟨address, address_eq, rendered⟩ := Asset.resolveStored_found
    ⟨settings, .final, owner⟩ field unmounted first isAbsolute
  have segments : ∀ root ∈ settings.assetRoots.inOrder, '/' ∉ root.mount.toList :=
    fun root member => mounted.oneSegment (root.mount, root.directory)
      (mem_mounts.mpr (.inl ⟨root, member, rfl, rfl⟩))
  have filled : home.mount ≠ "" :=
    mounted.filled (home.mount, home.directory) (mem_mounts.mpr (.inl ⟨home, inRoots, rfl, rfl⟩))
  have clear := trimmed_below contained filled start
    fun _ => Asset.isBlank_getLast?_of_names stored names
  have staticSegment : '/' ∉ (Text.withoutSurrounding '/' settings.staticMount).toList :=
    mounted.oneSegment (_, settings.staticDirectory) (mem_mounts.mpr (.inr ⟨rfl, rfl⟩))
  obtain ⟨result, result_eq, resolved⟩ := @Asset.resolve_below_root ⟨settings, .final, owner⟩ rfl
    server base home.mount relative isMount isKey visible field progress plain
    (mounted.static_ne inRoots) staticSegment segments ⟨home, inRoots, rfl⟩ clear home
    (find?_tidy first allowed) isAbsolute
  have same : result = address := Option.some.inj (result_eq.symm.trans address_eq)
  have preview := Asset.resolve_stored stored names ⟨settings, .preview, shownOwner⟩ isKey.1
    shownField before
  have render := Asset.resolve_stored stored names ⟨settings, .final, owner⟩ isKey.1 field
    progress
  rw [shown_eq] at previewed
  rw [same] at result_eq resolved
  exact ⟨_, address, preview.trans previewed, result_eq, resolved, render.trans rendered⟩

/-- Settings whose public address is another one. -/
def servedAt (address : String) : RenderSettings :=
  { Asset.rootedSettings with publicAddress := address }

/-- The case of a file below the legacy root and a public address with a path. -/
theorem resolve_preview_path :
    let settings := servedAt "http://localhost:8000/app/"
    let progress := Asset.Progress.start (Asset.diskOf [["srv", "uploads", "logos", "a.png"]])
    let final : Resolver := ⟨settings, .final, default⟩
    ∃ shown, (⟨settings, .preview, default⟩ : Resolver).resolve "spa_logo" "/uploads/logos/a.png"
        progress = (shown, progress) ∧
      final.resolve "spa_logo" shown progress = ("file:///srv/uploads/logos/a.png", progress) ∧
      final.resolve "spa_logo" "/uploads/logos/a.png" progress =
        ("file:///srv/uploads/logos/a.png", progress) := by
  intro settings progress final
  have base : Url.ofText? settings.baseUrl =
      some ⟨"http".toList, some ⟨[], some (.domain "localhost".toList), some 8000⟩, false,
        .segments ["app".toList], none, none⟩ := by decide +kernel
  have settled : Url.Host.ofSpecial? "localhost".toList = some (.domain "localhost".toList) := by
    decide +kernel
  have isSettled : ∀ authority ∈ some (⟨[], some (.domain "localhost".toList), some 8000⟩ :
      Authority), ∀ host ∈ authority.host, Url.Host.ofSpecial? host.chars = some host := by
    rintro _ ⟨⟩ _ ⟨⟩
    exact settled
  have stored : Reference.classify "/uploads/logos/a.png" = .stored "/uploads/logos/a.png" := by
    decide
  have first : (settings.assetRoots.inOrder.find? fun root =>
      Store.contains root.directory "logos/a.png" progress.disk) =
        some settings.assetRoots.legacy := by decide +kernel
  have start : ∀ char ∈ settings.assetRoots.legacy.mount.toList.head?,
      Text.isBlank char = false := by
    have isFirst : settings.assetRoots.legacy.mount.toList.head? = some 'u' := by decide
    rw [isFirst]
    rintro _ ⟨⟩
    decide
  obtain ⟨shown, address, previewed, address_eq, resolved, rendered⟩ :=
    resolve_preview base (.inl rfl) isSettled (by decide) (by decide) (by decide) stored
      ((Asset.names_iff _ _).mpr (by decide)) (by simp) rfl first (by decide) (by decide)
      start default default "spa_logo" "spa_logo"
  have written : (settings.assetRoots.legacy.directory.join "logos/a.png").fileUrl? =
      some "file:///srv/uploads/logos/a.png" := by decide
  obtain rfl := Option.some.inj (address_eq.symm.trans written)
  exact ⟨shown, previewed, resolved, rendered⟩

/-- Below a public address with a blank in its path, a final render leaves the address
that a preview shows as it is. -/
theorem resolve_preview_blank :
    let settings := servedAt "http://localhost:8000/a b"
    let progress := Asset.Progress.start (Asset.diskOf [["srv", "media", "a.png"]])
    let final : Resolver := ⟨settings, .final, default⟩
    let shown := "http://localhost:8000/a%20b/media/a.png"
    (∀ directory ∈ Asset.directories settings, directory.isAbsolute) ∧
    (∃ url, Url.ofText? settings.baseUrl = some url ∧ Url.IsWeb url.scheme) ∧
    Mounted settings ∧
    Reference.classify "a.png" = .stored "a.png" ∧
    Store.contains settings.assetRoots.primary.directory "a.png" progress.disk ∧
    ((⟨settings, .preview, default⟩ : Resolver).resolve "spa_logo" "a.png" progress).1 = shown ∧
    (final.resolve "spa_logo" "a.png" progress).1 = "file:///srv/media/a.png" ∧
    (final.resolve "spa_logo" shown progress).1 = shown := by
  intro settings progress final shown
  have base : Url.ofText? settings.baseUrl =
      some ⟨"http".toList, some ⟨[], some (.domain "localhost".toList), some 8000⟩, false,
        .segments ["a%20b".toList], none, none⟩ := by decide +kernel
  exact ⟨by decide, ⟨_, base, .inl rfl⟩, by decide, by decide, by decide +kernel,
    by decide +kernel, by decide +kernel, by decide +kernel⟩

end Service

end CertPress
