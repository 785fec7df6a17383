import CertPress.Asset.Resolver
import CertPress.Proofs.Files.Disk
import CertPress.Proofs.Files.Path

/-!
# Where resolved files lie

A final render shows files at addresses that are made from references.  A
reference seeks a relative path below one directory, its home: stored images
below the primary root, and own addresses below the static mount in the static
directory.  The file lies below one of the directories of the settings if the
path is relative and never goes up.  Nothing else is checked: a path that goes
up, or that is absolute after its mount is taken off, leads out of them.
-/

namespace CertPress.Asset

open Settings (AssetRoot RenderSettings)
open FilePath (Below fileNames?)

/-- The directories whose files a render shows. -/
def directories (settings : RenderSettings) : List FilePath :=
  [settings.assetRoots.primary.directory, settings.assetRoots.legacy.directory,
    settings.staticDirectory]

theorem directory_mem_directories {settings : RenderSettings} {root : AssetRoot}
    (inRoots : root ∈ settings.assetRoots.inOrder) : root.directory ∈ directories settings := by
  simp only [Settings.AssetRoots.inOrder, List.mem_cons, List.not_mem_nil, or_false] at inRoots
  rcases inRoots with rfl | rfl <;> simp [directories]

/-- The ways in which the path that is sought below a home lies below one of
some directories. -/
inductive Inside (directories : List FilePath) (home : FilePath) (relative : String) : Prop where
  /-- It is relative and never goes up. -/
  | inner :
      (⟨relative⟩ : FilePath).isAbsolute = false → ".." ∉ (⟨relative⟩ : FilePath).names →
      Inside directories home relative
  /-- It is absolute and lies below one of them by itself. -/
  | absolute {directory : FilePath} :
      (⟨relative⟩ : FilePath).isAbsolute → directory ∈ directories →
      Below directory.names (⟨relative⟩ : FilePath).names → Inside directories home relative
  /-- It goes up and comes back into one of them that is written so itself. -/
  | around {directory : FilePath} {detour inner : List String} :
      (⟨relative⟩ : FilePath).isAbsolute = false → directory ∈ directories →
      directory.names = home.names ++ detour →
      (⟨relative⟩ : FilePath).names = detour ++ inner → ".." ∉ inner →
      Inside directories home relative

/-- The joined path lies below one of the directories in no other way. -/
theorem exists_below_join_iff {directories : List FilePath} {home : FilePath} {relative : String}
    (member : home ∈ directories) :
    (∃ directory ∈ directories, Below directory.names (home.join relative).names) ↔
      Inside directories home relative := by
  cases rooted : (⟨relative⟩ : FilePath).isAbsolute with
  | true =>
      have kept : home.join relative = ⟨relative⟩ := by rw [FilePath.join, if_pos rooted]
      rw [kept]
      constructor
      · rintro ⟨directory, inDirectories, below⟩
        exact .absolute rooted inDirectories below
      · rintro (⟨notRooted, _⟩ | ⟨_, inDirectories, below⟩ | ⟨notRooted, _, _, _, _⟩)
        · exact absurd (rooted.symm.trans notRooted) (by simp)
        · exact ⟨_, inDirectories, below⟩
        · exact absurd (rooted.symm.trans notRooted) (by simp)
  | false =>
      rw [FilePath.names_join home rooted]
      constructor
      · rintro ⟨directory, inDirectories, inner, names_eq, settled⟩
        rcases List.append_eq_append_iff.mp names_eq with
          ⟨detour, directory_eq, relative_eq⟩ | ⟨outer, -, inner_eq⟩
        · exact .around rooted inDirectories directory_eq relative_eq settled
        · rw [inner_eq, List.mem_append, not_or] at settled
          exact .inner rooted settled.2
      · rintro (⟨_, settled⟩ | ⟨isRooted, _, _⟩ | ⟨_, inDirectories, directory_eq, relative_eq,
          settled⟩)
        · exact ⟨home, member, _, rfl, settled⟩
        · exact absurd (rooted.symm.trans isRooted) (by simp)
        · refine ⟨_, inDirectories, _, ?_, settled⟩
          rw [directory_eq, relative_eq, List.append_assoc]

/-- If no directory is written with a way up, a relative path lies inside
exactly if it never goes up. -/
theorem inside_iff_of_settled {directories : List FilePath} {home : FilePath} {relative : String}
    (settled : ∀ directory ∈ directories, ".." ∉ directory.names)
    (notRooted : (⟨relative⟩ : FilePath).isAbsolute = false) :
    Inside directories home relative ↔ ".." ∉ (⟨relative⟩ : FilePath).names := by
  constructor
  · rintro (⟨_, inner⟩ | ⟨rooted, _, _⟩ | ⟨_, inDirectories, directory_eq, relative_eq, inner⟩)
    · exact inner
    · exact absurd (rooted.symm.trans notRooted) (by simp)
    · have straight := settled _ inDirectories
      rw [directory_eq, List.mem_append, not_or] at straight
      rw [relative_eq, List.mem_append, not_or]
      exact ⟨straight.2, inner⟩
  · exact .inner notRooted

/-- What a reference is told to be has its text, without blanks around it. -/
theorem Reference.text_classify (reference : String) :
    (classify reference).text = Text.trimmed reference := by
  unfold classify
  dsimp only
  split
  next => rfl
  next =>
    split
    next => rfl
    next => split <;> rfl

/-- A text has the start that it was put behind. -/
theorem Reference.startsAs_append {start : String}
    (small : start.toList.map Char.toLower = start.toList) (rest : String) :
    startsAs start (start ++ rest) := by
  rw [startsAs, List.isPrefixOf_iff_prefix, Text.lowerAscii, String.toList_ofList,
    String.toList_append, List.map_append, small]
  exact List.prefix_append _ _

/-- A reference that names a file of ours: a stored path, or a web address of
the server itself. -/
inductive Ours (settings : RenderSettings) (reference : String) : Prop where
  | stored {path : String} :
      Reference.classify reference = .stored path → Ours settings reference
  | web {address : String} {url base : Url} :
      Reference.classify reference = .external address →
      (Reference.startsAs "http://" address || Reference.startsAs "https://" address) →
      Url.ofText? address = some url → Url.ofText? settings.baseUrl = some base →
      url.sameOrigin base → Ours settings reference

/-- The home of a reference, and the path that is sought below it. -/
def sought? (settings : RenderSettings) (reference : String) : Option (FilePath × String) :=
  let roots := settings.assetRoots.inOrder
  let stored (path : String) :=
    (settings.assetRoots.primary.directory, Resolver.withoutMount roots path)
  match Reference.classify reference with
  | .stored path => some (stored path)
  | .external address => do
      let served ← Resolver.servedPath? settings address
      match Resolver.belowMount? (Text.withoutSurrounding '/' settings.staticMount) served with
      | some relative => some (settings.staticDirectory, Text.withoutLeading '/' relative)
      | none =>
          if roots.any fun root => (Resolver.belowMount? root.mount served).isSome then
            some (stored served)
          else none
  | _ => none

section Sought

variable {settings : RenderSettings} {reference path address served relative : String}

theorem sought?_stored (stored : Reference.classify reference = .stored path) :
    sought? settings reference = some (settings.assetRoots.primary.directory,
      Resolver.withoutMount settings.assetRoots.inOrder path) := by
  unfold sought?
  simp only [stored]

theorem sought?_static (external : Reference.classify reference = .external address)
    (isServed : Resolver.servedPath? settings address = some served)
    (below : Resolver.belowMount? (Text.withoutSurrounding '/' settings.staticMount) served =
      some relative) :
    sought? settings reference =
      some (settings.staticDirectory, Text.withoutLeading '/' relative) := by
  unfold sought?
  simp only [external, isServed, Option.bind_eq_bind, Option.bind_some, below]

theorem sought?_mounted (external : Reference.classify reference = .external address)
    (isServed : Resolver.servedPath? settings address = some served)
    (notBelow : Resolver.belowMount? (Text.withoutSurrounding '/' settings.staticMount) served =
      none)
    (mounted : settings.assetRoots.inOrder.any fun root =>
      (Resolver.belowMount? root.mount served).isSome) :
    sought? settings reference = some (settings.assetRoots.primary.directory,
      Resolver.withoutMount settings.assetRoots.inOrder served) := by
  unfold sought?
  simp only [external, isServed, Option.bind_eq_bind, Option.bind_some, notBelow, mounted, if_true]

end Sought

/-- A web address is not the address of a file. -/
theorem fileNames?_web {address : String}
    (web : Reference.startsAs "http://" address || Reference.startsAs "https://" address) :
    fileNames? address = none := by
  have notFile : ¬ "file://".toList <+: address.toList := by
    rintro ⟨rest, chars⟩
    have lower : (Text.lowerAscii address).toList = "file://".toList ++ rest.map Char.toLower := by
      rw [Text.lowerAscii, String.toList_ofList, ← chars, List.map_append]
      rfl
    simp [Reference.startsAs, lower] at web
  rw [fileNames?, Text.after?, if_neg (by rwa [List.isPrefixOf_iff_prefix]), Option.map_none]

/-- The address of a path that was joined to an absolute one. -/
theorem fileNames?_join {home : FilePath} (isAbsolute : home.isAbsolute) (relative : String) :
    fileNames? (((home.join relative).fileUrl?).getD "") = some (home.join relative).names := by
  have written : (home.join relative).fileUrl? =
      some ("file://" ++ String.ofList (home.join relative).fileChars) := by
    rw [FilePath.fileUrl?, if_pos (FilePath.isAbsolute_join isAbsolute relative)]
  rw [written, Option.getD_some, FilePath.fileNames?_fileUrl? written]

/-- A key that names an object is relative and never goes up. -/
theorem inner_of_contains {root : FilePath} {key : String} {disk : Disk}
    (contains : Store.contains root key disk) :
    (⟨key⟩ : FilePath).isAbsolute = false ∧ ".." ∉ (⟨key⟩ : FilePath).names := by
  obtain ⟨⟨-, inner⟩, -⟩ := Store.contains_iff.mp contains
  obtain ⟨relative, -, settled⟩ := FilePath.isInner_iff.mp inner
  exact ⟨relative, settled⟩

/-- The address of a stored image below the root where it was found, or below
the primary one. -/
theorem resolveStored_final (settings : RenderSettings) (owner : Uuid) (field path : String)
    (progress : Progress) :
    ∃ relative found, relative = Resolver.withoutMount settings.assetRoots.inOrder path ∧
      (settings.assetRoots.inOrder.find? fun root =>
        Store.contains root.directory relative progress.disk) = found ∧
      ((⟨settings, .final, owner⟩ : Resolver).resolveStored field path progress).1 =
        (((found.getD settings.assetRoots.primary).directory.join relative).fileUrl?).getD "" := by
  refine ⟨_, _, rfl, rfl, ?_⟩
  unfold Resolver.resolveStored
  dsimp only
  split
  next written => exact (congrArg (Option.getD · "") written).symm
  next unwritten => exact (congrArg (Option.getD · "") unwritten).symm

section Final

variable {settings : RenderSettings} (absolute : ∀ directory ∈ directories settings,
  directory.isAbsolute) (owner : Uuid)

include absolute

/-- The address of a stored image is that of a file below one of the directories
exactly if the path below the primary root is. -/
theorem resolveStored_inside_iff (field path : String) (progress : Progress) :
    ∃ names,
      fileNames? ((⟨settings, .final, owner⟩ : Resolver).resolveStored field path progress).1 =
        some names ∧
      ((∃ directory ∈ directories settings, Below directory.names names) ↔
        Inside (directories settings) settings.assetRoots.primary.directory
          (Resolver.withoutMount settings.assetRoots.inOrder path)) := by
  obtain ⟨relative, found, relative_eq, isFound, result⟩ :=
    resolveStored_final settings owner field path progress
  have primary : settings.assetRoots.primary.directory ∈ directories settings := .head _
  rw [result, ← relative_eq]
  cases found with
  | none =>
      rw [Option.getD_none, fileNames?_join (absolute _ primary)]
      exact ⟨_, rfl, exists_below_join_iff primary⟩
  | some root =>
      have contains := List.find?_some isFound
      obtain ⟨notRooted, settled⟩ := inner_of_contains contains
      have member : root.directory ∈ directories settings :=
        directory_mem_directories (List.mem_of_find?_eq_some isFound)
      rw [Option.getD_some, fileNames?_join (absolute _ member)]
      refine ⟨_, rfl, ?_⟩
      rw [exists_below_join_iff member]
      exact ⟨fun _ => .inner notRooted settled, fun _ => .inner notRooted settled⟩

/-- A web address that is rewritten is sought below the static directory or as a
stored image. -/
theorem localize_inside_iff (field : String) {address : String} (progress : Progress)
    (web : Reference.startsAs "http://" address || Reference.startsAs "https://" address)
    {reference : String} (external : Reference.classify reference = .external address)
    {names : List String} (rewritten : fileNames?
      ((⟨settings, .final, owner⟩ : Resolver).localize field address progress).1 = some names) :
    ∃ home relative, sought? settings reference = some (home, relative) ∧
      ((∃ directory ∈ directories settings, Below directory.names names) ↔
        Inside (directories settings) home relative) := by
  have unchanged : fileNames? address ≠ some names := by simp [fileNames?_web web]
  have static : settings.staticDirectory ∈ directories settings := by simp [directories]
  unfold Resolver.localize at rewritten
  cases isServed : Resolver.servedPath? settings address with
  | none =>
      rw [isServed] at rewritten
      exact absurd rewritten unchanged
  | some served =>
      simp only [isServed] at rewritten
      cases below : Resolver.belowMount? (Text.withoutSurrounding '/' settings.staticMount)
          served with
      | some relative =>
          simp only [below, Resolver.staticFile, fileNames?_join (absolute _ static),
            Option.some.injEq] at rewritten
          subst rewritten
          exact ⟨_, _, sought?_static external isServed below, exists_below_join_iff static⟩
      | none =>
          simp only [below] at rewritten
          split at rewritten
          next mounted =>
            obtain ⟨shown, shown_eq, inside⟩ :=
              resolveStored_inside_iff absolute owner field served progress
            obtain rfl := Option.some.inj (rewritten.symm.trans shown_eq)
            exact ⟨_, _, sought?_mounted external isServed below mounted, inside⟩
          next => exact absurd rewritten unchanged

/-- A final render shows a file below one of the directories of the settings
exactly if the path that the reference seeks below its home lies inside. -/
theorem resolve_inside_iff (field : String) {reference : String} (progress : Progress)
    (ours : Ours settings reference) {names : List String} (rewritten : fileNames?
      ((⟨settings, .final, owner⟩ : Resolver).resolve field reference progress).1 = some names) :
    ∃ home relative, sought? settings reference = some (home, relative) ∧
      ((∃ directory ∈ directories settings, Below directory.names names) ↔
        Inside (directories settings) home relative) := by
  unfold Resolver.resolve at rewritten
  split at rewritten
  next => exact absurd rewritten (by simp [fileNames?, Text.after?])
  next =>
    rcases ours with ⟨stored⟩ | ⟨external, web, _, _, _⟩
    next path =>
      simp only [stored] at rewritten
      obtain ⟨shown, shown_eq, inside⟩ :=
        resolveStored_inside_iff absolute owner field path progress
      obtain rfl := Option.some.inj (rewritten.symm.trans shown_eq)
      exact ⟨_, _, sought?_stored stored, inside⟩
    next =>
      simp only [external] at rewritten
      exact localize_inside_iff absolute owner field progress web external rewritten

end Final

/-- Settings with three absolute directories. -/
def rootedSettings : RenderSettings :=
  { RenderSettings.default with
    assetRoots := ⟨⟨⟨"/srv/media"⟩, "media"⟩, ⟨⟨"/srv/uploads"⟩, "uploads"⟩⟩
    staticDirectory := ⟨"/srv/static"⟩ }

/-- The case of a stored path that goes up from the primary root. -/
theorem resolve_inside_iff_up :
    (∀ directory ∈ directories rootedSettings, directory.isAbsolute) ∧
    Ours rootedSettings "../x.png" ∧
    fileNames? ((⟨rootedSettings, .final, default⟩ : Resolver).resolve "spa_logo" "../x.png"
      (.start .empty)).1 = some ["srv", "media", "..", "x.png"] ∧
    ∃ home relative, sought? rootedSettings "../x.png" = some (home, relative) ∧
      ((∃ directory ∈ directories rootedSettings,
        Below directory.names ["srv", "media", "..", "x.png"]) ↔
          Inside (directories rootedSettings) home relative) := by
  have absolute : ∀ directory ∈ directories rootedSettings, directory.isAbsolute := by decide
  have ours : Ours rootedSettings "../x.png" :=
    .stored (show Reference.classify "../x.png" = .stored "../x.png" by decide)
  have result : ((⟨rootedSettings, .final, default⟩ : Resolver).resolve "spa_logo" "../x.png"
      (.start .empty)).1 = "file:///srv/media/../x.png" := by decide
  have written : (⟨"/srv/media/../x.png"⟩ : FilePath).fileUrl? =
      some "file:///srv/media/../x.png" := by decide
  have rewritten : fileNames? ((⟨rootedSettings, .final, default⟩ : Resolver).resolve "spa_logo"
      "../x.png" (.start .empty)).1 = some ["srv", "media", "..", "x.png"] := by
    rw [result, FilePath.fileNames?_fileUrl? written]
    decide
  exact ⟨absolute, ours, rewritten, resolve_inside_iff absolute _ _ _ ours rewritten⟩

/-- Behind its mount a stored path may be absolute, and then any file is
shown. -/
theorem resolve_outside :
    (∀ directory ∈ directories rootedSettings, directory.isAbsolute) ∧
    Ours rootedSettings "media//etc/passwd" ∧
    ((⟨rootedSettings, .final, default⟩ : Resolver).resolve "spa_logo" "media//etc/passwd"
      (.start .empty)).1 = "file:///etc/passwd" ∧
    fileNames? "file:///etc/passwd" = some ["etc", "passwd"] ∧
    ∀ directory ∈ directories rootedSettings, ¬ Below directory.names ["etc", "passwd"] := by
  have classified : Reference.classify "media//etc/passwd" = .stored "media//etc/passwd" := by
    decide
  have written : (⟨"/etc/passwd"⟩ : FilePath).fileUrl? = some "file:///etc/passwd" := by decide
  refine ⟨by decide, .stored classified, by decide, ?_, by decide⟩
  rw [FilePath.fileNames?_fileUrl? written]
  decide

end CertPress.Asset
