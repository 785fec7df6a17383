import CertPress.Proofs.Asset.Containment
import CertPress.Proofs.Text.Cut
import CertPress.Proofs.Text.Trim

/-!
# Stored images below two roots

A key names a path below the roots: the key itself, or what follows the mount of
the first root whose mount it starts with.  An image is shown below the first root
that has that path, and nothing is noted.  A key that happens to start with a mount
does not name the file that lies below a root under the key itself.
-/

namespace CertPress.Asset

open Record (RenderMode)
open Settings (AssetRoot RenderSettings)

/-- Whether a key may name an object: it is neither empty nor absolute, does not
start at the current directory and never goes up. -/
def IsKey (key : String) : Prop := key ≠ "" ∧ (⟨key⟩ : FilePath).isInner

instance (key : String) : Decidable (IsKey key) := inferInstanceAs (Decidable (_ ∧ _))

/-- The path below the roots that a key names. -/
inductive Names (key : String) : List AssetRoot → String → Prop where
  /-- The key itself, if it starts with no mount. -/
  | itself : Names key [] key
  /-- What follows the mount of the first root and a slash. -/
  | mounted {root : AssetRoot} {others : List AssetRoot} {relative : String} :
      key = root.mount ++ "/" ++ relative → Names key (root :: others) relative
  /-- What the key names below the other roots, if it does not start with the mount
  of the first one. -/
  | unmounted {root : AssetRoot} {others : List AssetRoot} {relative : String} :
      (∀ rest, key ≠ root.mount ++ "/" ++ rest) → Names key others relative →
      Names key (root :: others) relative

theorem belowMount?_eq_some_iff {mount path relative : String} :
    Resolver.belowMount? mount path = some relative ↔ path = mount ++ "/" ++ relative := by
  simp only [Resolver.belowMount?, Option.map_eq_some_iff, Text.after?_eq_some_iff]
  constructor
  · rintro ⟨rest, whole, rfl⟩
    apply String.toList_injective
    simp [whole]
  · rintro rfl
    exact ⟨relative.toList, by simp, String.ofList_toList⟩

theorem belowMount?_eq_none_iff {mount path : String} :
    Resolver.belowMount? mount path = none ↔ ∀ rest, path ≠ mount ++ "/" ++ rest := by
  simp only [Option.eq_none_iff_forall_ne_some, ne_eq, belowMount?_eq_some_iff]

/-- Every key names one path. -/
theorem names_iff {key : String} (roots : List AssetRoot) (relative : String) :
    Names key roots relative ↔
      relative = (roots.findSome? fun root => Resolver.belowMount? root.mount key).getD key := by
  induction roots with
  | nil => exact ⟨fun | .itself => rfl, fun same => same ▸ .itself⟩
  | cons root others hypothesis =>
      rw [List.findSome?_cons]
      cases below : Resolver.belowMount? root.mount key with
      | some rest =>
          have starts := belowMount?_eq_some_iff.mp below
          constructor
          · rintro (_ | same | ⟨free, _⟩)
            · exact Option.some.inj ((belowMount?_eq_some_iff.mpr same).symm.trans below)
            · exact absurd starts (free rest)
          · rintro rfl
            exact .mounted starts
      | none =>
          have free := belowMount?_eq_none_iff.mp below
          rw [← hypothesis]
          constructor
          · rintro (_ | same | ⟨_, names⟩)
            · exact absurd same (free relative)
            · exact names
          · exact .unmounted free

/-- Nothing but a mount is taken off a key. -/
theorem withoutMount_iff {key : String} (isKey : IsKey key) (trimmed : Text.trimmed key = key)
    (roots : List AssetRoot) (relative : String) :
    Names key roots relative ↔ relative = Resolver.withoutMount roots key := by
  have relative_eq : Text.withoutLeading '/' key = key :=
    FilePath.withoutLeading_eq_self (FilePath.isInner_iff.mp isKey.2).1
  rw [names_iff, Resolver.withoutMount, trimmed, relative_eq]

/-! ## What is shown -/

/-- The address at which a mode shows a path below a root. -/
def addressBelow? (settings : RenderSettings) (mode : RenderMode) (root : AssetRoot)
    (relative : String) : Option String :=
  match mode with
  | .preview => some (Resolver.webAddress settings root.mount relative)
  | .final => (root.directory.join relative).fileUrl?

/-- The path is shown below the first root that has it, and nothing is noted. -/
theorem resolveStored_found (resolver : Resolver) {root : AssetRoot} (field : String)
    {path relative : String} {progress : Progress}
    (relative_eq : relative = Resolver.withoutMount resolver.roots path)
    (first : (resolver.roots.find? fun root =>
      Store.contains root.directory relative progress.disk) = some root)
    (absolute : root.directory.isAbsolute) :
    ∃ address, addressBelow? resolver.settings resolver.mode root relative = some address ∧
      resolver.resolveStored field path progress = (address, progress) := by
  unfold Resolver.resolveStored
  simp only [← relative_eq, first, Option.isSome_some, if_true, Option.getD_some]
  cases mode : resolver.mode with
  | preview => exact ⟨_, rfl, rfl⟩
  | final =>
      have written : (root.directory.join relative).fileUrl? =
          some ("file://" ++ String.ofList (root.directory.join relative).fileChars) := by
        rw [FilePath.fileUrl?, if_pos (FilePath.isAbsolute_join absolute relative)]
      exact ⟨_, written, by simp only [written]⟩

/-- A stored key is shown below the primary root if that has the path it names, and
else below the legacy root if that has it.  In both modes nothing is noted. -/
theorem resolve_key (resolver : Resolver) (field key : String) (progress : Progress)
    (absolute : ∀ root ∈ resolver.roots, root.directory.isAbsolute) (isKey : IsKey key)
    (trimmed : Text.trimmed key = key) (stored : Reference.classify key = .stored key) :
    ∃ primary legacy relative, resolver.settings.assetRoots = ⟨primary, legacy⟩ ∧
      (∀ other, Names key [primary, legacy] other ↔ other = relative) ∧
      (Store.contains primary.directory relative progress.disk →
        ∃ address, addressBelow? resolver.settings resolver.mode primary relative = some address ∧
          resolver.resolve field key progress = (address, progress)) ∧
      (Store.contains primary.directory relative progress.disk = false →
        Store.contains legacy.directory relative progress.disk →
        ∃ address, addressBelow? resolver.settings resolver.mode legacy relative = some address ∧
          resolver.resolve field key progress = (address, progress)) := by
  have filled : Text.blank key = false := Text.blank_eq_false isKey.1 trimmed
  have asStored : resolver.resolve field key progress =
      resolver.resolveStored field key progress := by
    rw [Resolver.resolve, if_neg (by simp [filled]), stored]
  rw [asStored]
  obtain ⟨primary, legacy, same⟩ : ∃ primary legacy,
      resolver.settings.assetRoots = ⟨primary, legacy⟩ := ⟨_, _, rfl⟩
  have inOrder : resolver.roots = [primary, legacy] := by
    rw [Resolver.roots, same, Settings.AssetRoots.inOrder]
  rw [inOrder] at absolute
  obtain ⟨relative, relative_eq⟩ : ∃ relative,
      relative = Resolver.withoutMount resolver.roots key := ⟨_, rfl⟩
  refine ⟨primary, legacy, relative, same, fun other => ?_, fun inPrimary => ?_,
    fun notPrimary inLegacy => ?_⟩
  · rw [withoutMount_iff isKey trimmed, relative_eq, inOrder]
  · refine resolveStored_found resolver field relative_eq ?_ (absolute _ (.head _))
    rw [inOrder, List.find?_cons_of_pos (by simp [inPrimary])]
  · refine resolveStored_found resolver field relative_eq ?_ (absolute _ (.tail _ (.head _)))
    rw [inOrder, List.find?_cons_of_neg (by simp [notPrimary]),
      List.find?_cons_of_pos (by simp [inLegacy])]

/-- A disk with one file at each of some locations. -/
def diskOf (locations : List Location) : Disk :=
  locations.foldl (fun disk location =>
    (Disk.makeFrom disk [] location.dropLast).2.set location (.file [] false)) .empty

/-- The case of a key that starts with no mount, with a file below the legacy root
only. -/
theorem resolve_key_legacy :
    ∃ address, addressBelow? rootedSettings .final rootedSettings.assetRoots.legacy
        "logos/a.png" = some address ∧
      (⟨rootedSettings, .final, default⟩ : Resolver).resolve "spa_logo" "logos/a.png"
          (.start (diskOf [["srv", "uploads", "logos", "a.png"]])) =
        (address, .start (diskOf [["srv", "uploads", "logos", "a.png"]])) := by
  obtain ⟨_, _, relative, ⟨⟩, names, -, below⟩ := resolve_key
    ⟨rootedSettings, .final, default⟩ "spa_logo" "logos/a.png"
    (.start (diskOf [["srv", "uploads", "logos", "a.png"]]))
    (by decide) (by decide) (by decide) (by decide)
  obtain rfl : "logos/a.png" = relative := (names _).mp ((names_iff _ _).mpr (by decide))
  exact below (by decide +kernel) (by decide +kernel)

/-- A key that starts with a mount does not name the file below the primary root
that has the key as its path. -/
theorem resolve_key_mount :
    (∀ root ∈ rootedSettings.assetRoots.inOrder, root.directory.isAbsolute) ∧
    IsKey "media/a.png" ∧ Text.trimmed "media/a.png" = "media/a.png" ∧
    Reference.classify "media/a.png" = .stored "media/a.png" ∧
    Store.contains ⟨"/srv/media"⟩ "media/a.png" (diskOf [["srv", "media", "media", "a.png"]]) ∧
    addressBelow? rootedSettings .final rootedSettings.assetRoots.primary "media/a.png" =
      some "file:///srv/media/media/a.png" ∧
    ∃ address noted, (⟨rootedSettings, .final, default⟩ : Resolver).resolve "spa_logo"
        "media/a.png" (.start (diskOf [["srv", "media", "media", "a.png"]])) = (address, noted) ∧
      address = "file:///srv/media/a.png" ∧ noted.warnings ≠ [] := by
  refine ⟨by decide, by decide, by decide, by decide, by decide +kernel, by decide +kernel,
    _, _, rfl, by decide +kernel, by decide +kernel⟩

end CertPress.Asset
