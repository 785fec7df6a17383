import CertPress.Proofs.Service.Mounts

/-!
# What the service serves at its own addresses

The web address of a key below a mount leads a request to the directory of the mount,
and the answer is the file that the key names there.  A final render turns the same
address into the address of the same file, unless the address is below the mount of
the legacy root and the primary root has a file of the same key.
-/

namespace CertPress.Service

open Asset (IsMount IsKey Resolver segments)
open Settings (RenderSettings)

/-- The path of a key as an address shows it. -/
def shownKey (key : String) : List Char :=
  Text.join '/' (((⟨key⟩ : FilePath).names.map String.toList).map Url.Path.written)

section Key

variable {key : String} (isKey : IsKey key)

include isKey

theorem exists_shownKey_cons : ∃ first rest, shownKey key = first :: rest ∧ first ≠ '/' := by
  obtain ⟨char, piece, rest, names_eq, -⟩ := FilePath.exists_names_cons isKey.1 isKey.2
  obtain ⟨first, others, written⟩ := List.exists_cons_of_ne_nil
    (Url.Path.written_ne_nil (List.cons_ne_nil char piece))
  have notSlash : first ≠ '/' := by
    rintro rfl
    exact Url.Path.slash_not_mem_written (char :: piece) (written ▸ List.mem_cons_self)
  rw [shownKey, names_eq, List.map_cons, written]
  cases rest <;> exact ⟨_, _, rfl, notSlash⟩

theorem decode_shownKey :
    Text.Percent.decode (shownKey key) = Text.encode (FilePath.tidy key).toList := by
  obtain ⟨char, piece, rest, names_eq, -⟩ := FilePath.exists_names_cons isKey.1 isKey.2
  rw [shownKey, FilePath.toList_tidy, Url.Path.decode_join_written]
  simp [names_eq]

/-- The file that a shown key leads to below a directory. -/
theorem target?_shownKey (directory : FilePath) :
    Files.target? directory ('/' :: shownKey key) = some (directory.join (FilePath.tidy key)) := by
  obtain ⟨first, rest, shown, notSlash⟩ := exists_shownKey_cons isKey
  have start : Text.dropLeading '/' ('/' :: shownKey key) = shownKey key := by
    rw [shown]
    simp [Text.dropLeading, notSlash]
  have settled : (⟨key⟩ : FilePath).names.contains ".." = false := by
    simpa using (FilePath.isInner_iff.mp isKey.2).2.2
  rw [Files.target?, start, decode_shownKey isKey, Text.decode?_encode]
  simp only [Option.bind_eq_bind, Option.bind_some, String.ofList_toList,
    FilePath.isAbsolute_tidy key, FilePath.names_tidy isKey.1 isKey.2, settled, Bool.or_self,
    Bool.false_eq_true, if_false, FilePath.foldl_join_names isKey.1 isKey.2]

end Key

/-- The file of a key is served with its content. -/
theorem get_shownKey {directory : FilePath} {key : String} {disk : Disk}
    (contained : Store.contains directory key disk) :
    ∃ bytes, disk.read (directory.join key) = .ok bytes ∧
      Files.get directory ('/' :: shownKey key) disk =
        .ofContent (Text.mediaTypeOf (directory.join key).extension?) bytes := by
  obtain ⟨location, content, executable, found, tidyFound⟩ := Store.find_of_contains contained
  obtain ⟨isKey, -⟩ := Store.contains_iff.mp contained
  have notDirectory : disk.isDirectory (directory.join (FilePath.tidy key)) = false := by
    rw [Disk.isDirectory, tidyFound]
  have read : disk.read (directory.join key) = .ok content := by
    rw [Disk.read, found]
    rfl
  have tidyRead : disk.read (directory.join (FilePath.tidy key)) = .ok content := by
    rw [Disk.read, tidyFound]
    rfl
  have extension : (directory.join (FilePath.tidy key)).extension? =
      (directory.join key).extension? := by
    simp only [FilePath.extension?, FilePath.nameParts?, FilePath.lastName?,
      FilePath.names_join_tidy isKey.1 isKey.2]
  refine ⟨content, read, ?_⟩
  rw [Files.get, target?_shownKey isKey]
  dsimp only
  rw [notDirectory, if_neg Bool.false_ne_true, Files.content, tidyRead, extension]

/-! ## Requests -/

/-- The segments of a mount and a key in an address. -/
theorem flatMap_segments {mount key : String} (isKey : IsKey key)
    (plain : Url.Path.written mount.toList = mount.toList) :
    ((segments mount key).map Url.Path.written).flatMap ('/' :: ·) =
      '/' :: (mount.toList ++ '/' :: shownKey key) := by
  obtain ⟨char, piece, rest, names_eq, -⟩ := FilePath.exists_names_cons isKey.1 isKey.2
  rw [segments, List.map_cons, Text.flatMap_eq_join (List.cons_ne_nil _ _), plain, shownKey,
    names_eq]
  rfl

/-- The path of a request for an address on a server. -/
theorem path_url {address : Url.Address} {request : Request}
    (same : request.address = address.url.text) :
    request.path = address.segments.flatMap ('/' :: ·) := by
  have start : ∀ rest, (address.scheme ++ rest).head? ≠ some '/' := by
    rcases address.web with same | same <;> rw [same] <;> simp
  have inScheme : ∀ char ∈ address.scheme, Url.inScheme char = true := by
    rw [← List.all_eq_true]
    rcases address.web with same | same <;> rw [same] <;> rfl
  have noMark : ∀ char ∈ address.scheme ++ ':' :: address.place,
      (char != '?' && char != '#') = true := by
    have scheme : ∀ char ∈ address.scheme, (char != '?' && char != '#') = true := by
      rw [← List.all_eq_true]
      rcases address.web with same | same <;> rw [same] <;> rfl
    intro char member
    rw [List.mem_append, List.mem_cons] at member
    rcases member with isScheme | rfl | behind
    · exact scheme char isScheme
    · decide
    · simp [(address.of_mem_place behind).2]
  have marks : ((address.query.map ('?' :: ·)).getD [] ++
      (address.fragment.map ('#' :: ·)).getD []).takeWhile
        (fun char => char != '?' && char != '#') = [] := by
    cases address.query with
    | some text => simp
    | none => cases address.fragment <;> simp
  have place : request.address.toList.takeWhile (fun char => char != '?' && char != '#') =
      address.scheme ++ ':' :: address.place := by
    rw [same, address.toList_text, List.append_assoc, ← List.cons_append, ← List.append_assoc,
      List.takeWhile_append_of_pos noMark, marks, List.append_nil]
  have server : Text.after? [':', '/', '/']
      ((address.scheme ++ ':' :: address.place).dropWhile Url.inScheme) =
        some (address.authority.chars ++ address.segments.flatMap ('/' :: ·)) := by
    rw [List.dropWhile_append_of_pos inScheme, List.dropWhile_cons_of_neg (by decide)]
    rfl
  have noSlash : ∀ char ∈ address.authority.chars, (char != '/') = true := by
    intro char member
    have free := (address.of_mem_authority member).2.2
    simp only [List.mem_cons, List.not_mem_nil, or_false, not_or] at free
    simp [free]
  obtain ⟨rest, path⟩ := address.exists_path
  rw [Request.path, place, if_neg (start _), server, path]
  dsimp only
  rw [if_pos (by simp), List.dropWhile_append_of_pos noSlash,
    List.dropWhile_cons_of_neg (by decide)]

/-- The keys that the ways to render take away from the mount `certificates`. -/
def renderKeys : List String := ["preview", "pdf", "image", "generate"]

theorem shownKey_not_mem {key : String} (isKey : IsKey key)
    (free : FilePath.tidy key ∉ renderKeys) :
    shownKey key ∉ ["preview".toList, "pdf".toList, "image".toList, "generate".toList] := by
  have apart {word : String} (isWord : word ∈ renderKeys)
      (plain : Url.Path.written word.toList = word.toList) : shownKey key ≠ word.toList := by
    intro same
    have bytes : Text.encode (FilePath.tidy key).toList = Text.encode word.toList := by
      rw [← decode_shownKey isKey, same, ← plain, Url.Path.decode_written, plain]
    have whole : FilePath.tidy key = word := by
      apply String.toList_injective
      rw [← Text.decodeLossy_encode (FilePath.tidy key).toList, bytes, Text.decodeLossy_encode]
    exact free (whole ▸ isWord)
  simp only [List.mem_cons, List.not_mem_nil, or_false, not_or]
  exact ⟨apart (by decide) (by decide), apart (by decide) (by decide),
    apart (by decide) (by decide), apart (by decide) (by decide)⟩

section Served

variable {settings : RenderSettings} {origin : Url.Origin}
  (base : Url.ofText? settings.baseUrl = some (origin.url [[]])) (mounted : Mounted settings)
  {mount : String} {directory : FilePath} (member : (mount, directory) ∈ mounts settings)
  (isMount : IsMount mount) {key : String}
  (visible : ∀ char ∈ key.toList, char ≠ '\t' ∧ char ≠ '\n' ∧ char ≠ '\r')

include base mounted member isMount visible

/-- A request for the web address of a key is answered with the file of the key below
the directory of the mount. -/
theorem handle_webAddress {table : List (Route Endpoint)} (found : table? settings = some table)
    (literal : ∀ entry ∈ mounts settings, IsLiteral entry.1)
    (plain : Url.Path.written mount.toList = mount.toList)
    (free : mount = "certificates" → FilePath.tidy key ∉ renderKeys) {state : ServiceState}
    (contained : Store.contains directory key state.machine.disk) {request : Request}
    (method : request.method = "GET")
    (address : request.address = Resolver.webAddress settings mount key)
    (workshop : Workshop) (moment : Moment) :
    ∃ bytes, state.machine.disk.read (directory.join key) = .ok bytes ∧
      (handle workshop table moment request state).1 =
        .ofContent (Text.mediaTypeOf (directory.join key).extension?) bytes := by
  obtain ⟨isKey, -⟩ := Store.contains_iff.mp contained
  obtain ⟨first, rest, shown, notSlash⟩ := exists_shownKey_cons isKey
  have path : request.path = '/' :: (mount.toList ++ '/' :: shownKey key) := by
    have atRoot : Url.ofText? settings.baseUrl = some origin.root.url := base
    rw [Asset.webAddress_eq atRoot isMount isKey visible] at address
    rw [path_url address, ← flatMap_segments isKey plain]
    rfl
  have route : Route.find? table request.path = some (.files mount directory, [shownKey key]) := by
    rw [path]
    exact find?_below mounted literal found member (shown ▸ List.cons_ne_nil _ _)
      fun same => shownKey_not_mem isKey (free same)
  have below : Mount.below mount request.path = '/' :: shownKey key := by
    rw [path, below_eq isMount.oneSegment (by simp [shown, notSlash])]
  obtain ⟨bytes, read, served⟩ := get_shownKey contained
  refine ⟨bytes, read, ?_⟩
  rw [handle, method, if_neg (by decide), route]
  dsimp only [answerAt, Handler.reading]
  rw [below, method]
  exact served

end Served

/-! ## Final renders -/

/-- The entries of the mounts: two roots and the static directory. -/
theorem mem_mounts {settings : RenderSettings} {mount : String} {directory : FilePath} :
    (mount, directory) ∈ mounts settings ↔
      (∃ root ∈ settings.assetRoots.inOrder, root.mount = mount ∧ root.directory = directory) ∨
      (Text.withoutSurrounding '/' settings.staticMount = mount ∧
        settings.staticDirectory = directory) := by
  simp [mounts, eq_comm]

/-- The mount of a root is not the static one. -/
theorem Mounted.static_ne {settings : RenderSettings} (mounted : Mounted settings)
    {root : Settings.AssetRoot} (inRoots : root ∈ settings.assetRoots.inOrder) :
    Text.withoutSurrounding '/' settings.staticMount ≠ root.mount := by
  have distinct := mounted.distinct
  rw [mounts, List.map_append, List.map_map] at distinct
  intro same
  exact (List.nodup_append.mp distinct).2.2 _ (List.mem_map_of_mem inRoots) _ (.head _) same.symm

/-- A root that has a key is the first such one, unless it is the legacy root and the
primary root has the key too. -/
theorem find?_roots {settings : RenderSettings} {root : Settings.AssetRoot}
    (inRoots : root ∈ settings.assetRoots.inOrder) {key : String} {disk : Disk}
    (contained : Store.contains root.directory key disk)
    (unshadowed : root.mount = settings.assetRoots.legacy.mount →
      Store.contains settings.assetRoots.primary.directory key disk = false) :
    (settings.assetRoots.inOrder.find? fun root => Store.contains root.directory key disk) =
      some root := by
  rw [Settings.AssetRoots.inOrder] at inRoots ⊢
  simp only [List.mem_cons, List.not_mem_nil, or_false] at inRoots
  rcases inRoots with rfl | rfl
  · rw [List.find?_cons_of_pos (by simpa using contained)]
  · rw [List.find?_cons_of_neg (by simp [unshadowed rfl]),
      List.find?_cons_of_pos (by simpa using contained)]

/-- A final render turns the web address of a key below a mount into the address of
the file of the key below the directory of the mount, which is the file that the
service answers a request for that address with.  For the mount of the legacy root
the primary root may not have the key. -/
theorem resolve_served {resolver : Resolver} (final : resolver.mode = .final)
    {scheme : List Char} {host : Url.Host} {port : Option Nat}
    (base : Url.ofText? resolver.settings.baseUrl =
      some ⟨scheme, some ⟨[], some host, port⟩, false, .segments [[]], none, none⟩)
    (web : Url.IsWeb scheme)
    (settled : Url.Host.ofSpecial? host.chars = some host)
    (absolute : ∀ directory ∈ Asset.directories resolver.settings, directory.isAbsolute)
    (mounted : Mounted resolver.settings) {mount : String} {directory : FilePath}
    (member : (mount, directory) ∈ mounts resolver.settings) (isMount : IsMount mount)
    {key : String} (visible : ∀ char ∈ key.toList, char ≠ '\t' ∧ char ≠ '\n' ∧ char ≠ '\r')
    {progress : Asset.Progress} (contained : Store.contains directory key progress.disk)
    (clear : mount ≠ Text.withoutSurrounding '/' resolver.settings.staticMount →
      Text.trimmed (mount ++ "/" ++ FilePath.tidy key) = mount ++ "/" ++ FilePath.tidy key)
    (unshadowed : mount = resolver.settings.assetRoots.legacy.mount →
      Store.contains resolver.settings.assetRoots.primary.directory (FilePath.tidy key)
        progress.disk = false) (field : String) :
    (∃ address, (directory.join key).fileUrl? = some address ∧
      resolver.resolve field (Resolver.webAddress resolver.settings mount key) progress =
        (address, progress)) ∧
    ∀ table, table? resolver.settings = some table →
      (∀ entry ∈ mounts resolver.settings, IsLiteral entry.1) →
      Url.Path.written mount.toList = mount.toList →
      (mount = "certificates" → FilePath.tidy key ∉ renderKeys) →
      ∀ workshop moment state request, state.machine.disk = progress.disk →
        request.method = "GET" →
        request.address = Resolver.webAddress resolver.settings mount key →
        ∃ bytes, state.machine.disk.read (directory.join key) = .ok bytes ∧
          (handle workshop table moment request state).1 =
            .ofContent (Text.mediaTypeOf (directory.join key).extension?) bytes := by
  obtain ⟨isKey, -⟩ := Store.contains_iff.mp contained
  obtain ⟨origin, rfl, rfl, rfl⟩ := Url.exists_origin base web settled
  have atRoot : Url.ofText? resolver.settings.baseUrl = some (origin.url [[]]) := base
  constructor
  · rcases mem_mounts.mp member with ⟨root, inRoots, rfl, rfl⟩ | ⟨isStatic, rfl⟩
    · have staticSegment := mounted.oneSegment _ (mem_mounts.mpr (.inr ⟨rfl, rfl⟩))
      have segments : ∀ other ∈ resolver.roots, '/' ∉ other.mount.toList := fun other inOthers =>
        mounted.oneSegment (other.mount, other.directory)
          (mem_mounts.mpr (.inl ⟨other, inOthers, rfl, rfl⟩))
      have first := find?_roots inRoots (Store.contains_tidy contained) unshadowed
      have isAbsolute := absolute _ (Asset.directory_mem_directories inRoots)
      exact Asset.resolve_root final atRoot isMount isKey visible field progress
        (mounted.static_ne inRoots) staticSegment segments ⟨root, inRoots, rfl⟩
        (clear (mounted.static_ne inRoots).symm) first isAbsolute
    · exact Asset.resolve_static final atRoot isMount isKey visible field progress isStatic
        (absolute _ (by simp [Asset.directories]))
  · intro table found literal plain free workshop moment state request sameDisk method address
    rw [← sameDisk] at contained
    exact handle_webAddress atRoot mounted member isMount visible found literal plain free
      contained method address workshop moment

/-- The server on this machine that rooted settings name. -/
def localOrigin : Url.Origin where
  scheme := "http".toList
  host := .domain "localhost".toList
  port := some 8000
  web := .inl rfl
  settled := by decide +kernel
  isWritten := by decide

theorem rootedSettings_origin :
    Url.ofText? Asset.rootedSettings.baseUrl = some (localOrigin.url [[]]) := by
  decide +kernel

/-- A request for what is at an address. -/
def requestFor (address : String) : Request := ⟨"GET", address, none, []⟩

/-- A service that works on a disk. -/
def stateOn (disk : Disk) : ServiceState :=
  { (default : ServiceState) with machine := { (default : ServiceState).machine with disk } }

/-- The case of a key that only the legacy root has. -/
theorem resolve_served_legacy :
    let disk := Asset.diskOf [["srv", "uploads", "logos", "a.png"]]
    let address := Resolver.webAddress Asset.rootedSettings "uploads" "logos/a.png"
    (⟨Asset.rootedSettings, .final, default⟩ : Resolver).resolve "spa_logo" address
        (.start disk) = ("file:///srv/uploads/logos/a.png", .start disk) ∧
    ∃ table bytes, table? Asset.rootedSettings = some table ∧
      disk.read ⟨"/srv/uploads/logos/a.png"⟩ = .ok bytes ∧
      (handle default table default (requestFor address) (stateOn disk)).1 =
        .ofContent (Text.mediaTypeOf (some "png")) bytes := by
  intro disk address
  obtain ⟨table, found⟩ : ∃ table, table? Asset.rootedSettings = some table :=
    Option.isSome_iff_exists.mp (by decide +kernel)
  obtain ⟨⟨result, written, resolved⟩, served⟩ :=
    @resolve_served ⟨Asset.rootedSettings, .final, default⟩ rfl _ _ _ rootedSettings_origin
      localOrigin.web localOrigin.settled (by decide) (by decide) "uploads" ⟨"/srv/uploads"⟩
      (by decide) (by decide) "logos/a.png" (by simp) (.start disk) (by decide +kernel)
      (by decide) (by decide +kernel) "spa_logo"
  have result_eq : ((⟨"/srv/uploads"⟩ : FilePath).join "logos/a.png").fileUrl? =
      some "file:///srv/uploads/logos/a.png" := by decide
  obtain rfl := Option.some.inj (written.symm.trans result_eq)
  obtain ⟨bytes, read, response⟩ := served table found (by decide) (by decide) (by decide)
    default default (stateOn disk) (requestFor address) rfl rfl rfl
  have media : ((⟨"/srv/uploads"⟩ : FilePath).join "logos/a.png").extension? = some "png" := by
    decide
  exact ⟨resolved, table, bytes, found, read, media ▸ response⟩

/-- If both roots have a key, the web address below the mount of the legacy root leads
a request to the file of the legacy root and a final render to that of the primary
one. -/
theorem resolve_not_served :
    let disk := ((Asset.diskOf [["srv", "media", "a.png"], ["srv", "uploads", "a.png"]]).set
      ["srv", "media", "a.png"] (.file (bytesOf "x") false)).set
      ["srv", "uploads", "a.png"] (.file (bytesOf "y") false)
    let address := Resolver.webAddress Asset.rootedSettings "uploads" "a.png"
    (∀ directory ∈ Asset.directories Asset.rootedSettings, directory.isAbsolute) ∧
    Url.ofText? Asset.rootedSettings.baseUrl = some (localOrigin.url [[]]) ∧
    Mounted Asset.rootedSettings ∧
    ("uploads", ⟨"/srv/uploads"⟩) ∈ mounts Asset.rootedSettings ∧
    Store.contains ⟨"/srv/uploads"⟩ "a.png" disk ∧
    ((⟨"/srv/uploads"⟩ : FilePath).join "a.png").fileUrl? = some "file:///srv/uploads/a.png" ∧
    ((⟨Asset.rootedSettings, .final, default⟩ : Resolver).resolve "spa_logo" address
      (.start disk)).1 = "file:///srv/media/a.png" ∧
    disk.read ⟨"/srv/media/a.png"⟩ = .ok (bytesOf "x") ∧
    ∃ table, table? Asset.rootedSettings = some table ∧
      (handle default table default (requestFor address) (stateOn disk)).1 =
        .ofContent (Text.mediaTypeOf (some "png")) (bytesOf "y") := by
  intro disk address
  have mounted : Mounted Asset.rootedSettings := by decide
  have member : ("uploads", ⟨"/srv/uploads"⟩) ∈ mounts Asset.rootedSettings := by decide
  have contained : Store.contains ⟨"/srv/uploads"⟩ "a.png" disk := by decide +kernel
  obtain ⟨table, found⟩ : ∃ table, table? Asset.rootedSettings = some table :=
    Option.isSome_iff_exists.mp (by decide +kernel)
  obtain ⟨bytes, read, response⟩ := @handle_webAddress _ _ rootedSettings_origin mounted _ _
    member (by decide) "a.png" (by simp) table found (by decide) (by decide) (by decide)
    (stateOn disk) contained (requestFor address) rfl rfl default default
  have inLegacy : disk.read ((⟨"/srv/uploads"⟩ : FilePath).join "a.png") = .ok (bytesOf "y") := by
    decide +kernel
  obtain rfl : bytes = bytesOf "y" := Except.ok.inj (read.symm.trans inLegacy)
  have media : ((⟨"/srv/uploads"⟩ : FilePath).join "a.png").extension? = some "png" := by decide
  exact ⟨by decide, rootedSettings_origin, mounted, member, contained, by decide,
    by decide +kernel, by decide +kernel, table, found, media ▸ response⟩

end CertPress.Service
