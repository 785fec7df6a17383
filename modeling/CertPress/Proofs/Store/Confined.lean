import CertPress.Proofs.Files.Confined
import CertPress.Proofs.Store.Staging

/-!
# Objects stay in their root

A key has a path exactly if it is safe, and the path goes on behind the root by the names of the
key.  So requests to a store read and write nothing outside of the root, one request or many.
-/

namespace CertPress

namespace FilePath

/-- A component of a path. -/
inductive Component where
  /-- The slash that an absolute path starts with. -/
  | root
  /-- The dot that a relative path starts with. -/
  | here
  | up
  | name (text : String)
  deriving DecidableEq, Repr

/-- The components of a path in order.  A dot that does not start the path is none. -/
def components (path : FilePath) : List Component :=
  (if path.isAbsolute then [.root] else if path.startsHere then [.here] else []) ++
    path.names.map fun name => if name = ".." then .up else .name name

example : (⟨"/data//objects/./.."⟩ : FilePath).components =
    [.root, .name "data", .name "objects", .up] := by
  decide

/-- The path of a key has the components of the root and the names of the key. -/
theorem components_join {key : String} (inner : (⟨key⟩ : FilePath).isInner) (root : FilePath) :
    (root.join key).components = root.components ++ (⟨key⟩ : FilePath).names.map .name := by
  obtain ⟨relative, -, noUp⟩ := isInner_iff.mp inner
  have named : (⟨key⟩ : FilePath).names.map (fun name => if name = ".." then .up else .name name) =
      (⟨key⟩ : FilePath).names.map Component.name := by
    refine List.map_congr_left fun name member => if_neg ?_
    rintro rfl
    exact noUp member
  rw [components, isAbsolute_join_eq relative, startsHere_join inner, names_join root relative,
    List.map_append, named, ← List.append_assoc, ← components]

end FilePath

namespace Store

open Disk (Confined AgreeOn)
open FilePath (Component)

section Keys

variable {α β : Type} {root : FilePath} {key : String}

/-! ## Safe keys -/

/-- Whether a key is safe: it is not empty and does not start with a slash, its first piece is
not a dot, and no piece goes up. -/
structure Safe (key : String) : Prop where
  filled : key ≠ ""
  relative : key.toList.head? ≠ some '/'
  named : (Text.split '/' key.toList).head? ≠ some ['.']
  settled : ['.', '.'] ∉ Text.split '/' key.toList

theorem safe_iff : Safe key ↔ key ≠ "" ∧ (⟨key⟩ : FilePath).isInner := by
  rw [FilePath.isInner_iff, FilePath.up_mem_names_iff]
  constructor
  · rintro ⟨filled, relative, named, settled⟩
    exact ⟨filled, by simpa [FilePath.isAbsolute] using relative,
      by simpa [FilePath.startsHere, FilePath.pieces] using named, settled⟩
  · rintro ⟨filled, relative, named, settled⟩
    exact ⟨filled, by simpa [FilePath.isAbsolute] using relative,
      by simpa [FilePath.startsHere, FilePath.pieces] using named, settled⟩

theorem objectPath_of_safe (safe : Safe key) (root : FilePath) :
    objectPath root key = .ok (root.join key) :=
  if_pos (safe_iff.mp safe)

theorem objectPath_of_not_safe (notSafe : ¬ Safe key) (root : FilePath) :
    objectPath root key = .error (.invalidKey key) :=
  if_neg (mt safe_iff.mpr notSafe)

theorem objectPath_eq_ok {path : FilePath} :
    objectPath root key = .ok path ↔ Safe key ∧ path = root.join key := by
  by_cases safe : Safe key
  · rw [objectPath_of_safe safe, Except.ok.injEq]
    exact ⟨fun same => ⟨safe, same.symm⟩, fun isPath => isPath.2.symm⟩
  · rw [objectPath_of_not_safe safe]
    exact ⟨nofun, fun isPath => absurd isPath.1 safe⟩

/-! ## Writing an object -/

/-- What follows an outcome: the next action, and nothing behind a fault. -/
def follow (next : α → StoreAction β) : Except StoreFault α → Disk → Except StoreFault β × Disk
  | .ok value => next value
  | .error fault => fun disk => (.error fault, disk)

theorem confined_bind {action : StoreAction α} {next : α → StoreAction β}
    (first : Confined root action) (second : ∀ value, Confined root (next value)) :
    Confined root (action >>= next) := by
  have whole : (action >>= next) = fun disk => follow next (action disk).1 (action disk).2 := by
    funext disk
    rw [Action.run_bind]
    rcases action disk with ⟨fault | value, between⟩
    · rfl
    · rfl
  rw [whole]
  refine first.andThen fun outcome => ?_
  cases outcome with
  | ok value => exact second value
  | error fault => exact Confined.answer (Except.error fault)

/-- An operation on the path of a key keeps to the root if it does so with safe keys. -/
theorem confined_withPath {work : FilePath → StoreAction α}
    (inside : Safe key → Confined root (work (root.join key))) :
    Confined root (liftM (objectPath root key) >>= work : StoreAction α) := by
  by_cases safe : Safe key
  · rw [objectPath_of_safe safe]
    exact inside safe
  · rw [objectPath_of_not_safe safe]
    exact Confined.answer (Except.error (StoreFault.invalidKey key) : Except StoreFault α)

theorem confined_prepare {path : FilePath}
    (stays : Disk.Stays root (path.parent?.getD ⟨""⟩)) : Confined root (prepare path) := by
  refine (Disk.confined_makeDirectories stays).view
    (Except.mapError (StoreFault.disk (path.parent?.getD ⟨""⟩))) fun disk => ?_
  unfold prepare
  dsimp only
  rcases Disk.makeDirectories (path.parent?.getD ⟨""⟩) disk with ⟨fault | _, made⟩
  · rfl
  · rfl

theorem confined_put (root : FilePath) (key : String) (content : Bytes) :
    Confined root (put root key content) := by
  rw [put_eq]
  refine confined_withPath fun safe => ?_
  obtain ⟨filled, inner⟩ := safe_iff.mp safe
  refine confined_bind (confined_prepare (Disk.stays_parent filled inner root)) fun _ => ?_
  refine (Disk.confined_write (Disk.inside_join filled inner root) content false).view
    (Except.mapError (StoreFault.disk (root.join key))) fun disk => ?_
  rcases Disk.write (root.join key) content false disk with ⟨fault | _, after⟩
  · rfl
  · rfl

/-- The answer to a write that keeps what is there. -/
def added (path : FilePath) : Except DiskFault Unit → Except StoreFault Bool
  | .ok () => .ok true
  | .error .alreadyExists => .ok false
  | .error fault => .error (.disk path fault)

theorem confined_putIfAbsent (root : FilePath) (key : String) (content : Bytes) :
    Confined root (putIfAbsent root key content) := by
  rw [putIfAbsent_eq]
  refine confined_withPath fun safe => ?_
  obtain ⟨filled, inner⟩ := safe_iff.mp safe
  refine confined_bind (confined_prepare (Disk.stays_parent filled inner root)) fun _ => ?_
  refine (Disk.confined_writeNew (Disk.inside_join filled inner root) content).view
    (added (root.join key)) fun disk => ?_
  rcases Disk.writeNew (root.join key) content disk with ⟨fault | _, after⟩
  · cases fault <;> rfl
  · rfl

/-! ## Reading objects -/

section Agree

variable {left right : Disk} (agree : AgreeOn root left right)
include agree

theorem read_of_agree (key : String) : read root key right = read root key left := by
  unfold read
  by_cases safe : Safe key
  · rw [objectPath_of_safe safe]
    simp only [bind, Except.bind, agree.read (Disk.stays_join (safe_iff.mp safe).2 root)]
  · rw [objectPath_of_not_safe safe]
    rfl

theorem contains_of_agree (key : String) : contains root key right = contains root key left := by
  unfold contains
  by_cases safe : Safe key
  · rw [objectPath_of_safe safe]
    simp only [agree.isFile (Disk.stays_join (safe_iff.mp safe).2 root)]
  · rw [objectPath_of_not_safe safe]

theorem list_of_agree (start : String) : list root start right = list root start left := by
  unfold list
  by_cases safe : Safe (Text.withoutTrailing '/' start)
  · obtain ⟨filled, inner⟩ := safe_iff.mp safe
    have sameNames := agree.list (Disk.stays_join inner root)
      ((Disk.inside_join filled inner root).covers left)
    simp only [objectPath_of_safe safe, bind, Except.bind, sameNames]
    cases listed : left.list (root.join (Text.withoutTrailing '/' start)) with
    | error fault => cases fault <;> rfl
    | ok names =>
        -- A directory may list the names that it has, and each of them is looked up.
        have sameFiles (name : String) (member : name ∈ names) :
            right.isFile ((root.join (Text.withoutTrailing '/' start)).join name) =
              left.isFile ((root.join (Text.withoutTrailing '/' start)).join name) :=
          agree.isFile (Disk.stays_join_name filled inner root
            (Disk.slash_not_mem_list listed member))
        simp only [List.filter_congr sameFiles]
  · simp only [objectPath_of_not_safe safe]
    rfl

end Agree

end Keys

/-! ## Requests to a store -/

/-- A request to a store of objects. -/
inductive Request where
  | get (key : String)
  | put (key : String) (content : Bytes)
  | putIfAbsent (key : String) (content : Bytes)
  | contains (key : String)
  | list (start : String)

/-- The answer to a request. -/
inductive Answer where
  | content (outcome : Except StoreFault Bytes)
  | written (outcome : Except StoreFault Unit)
  | added (outcome : Except StoreFault Bool)
  | present (found : Bool)
  | keys (outcome : Except StoreFault (List String))

namespace Request

/-- The key that is looked up: for a list, its start without slashes at the end. -/
def key : Request → String
  | .get key | .put key _ | .putIfAbsent key _ | .contains key => key
  | .list start => Text.withoutTrailing '/' start

/-- Serve a request from the objects below a root. -/
def serve (root : FilePath) (request : Request) (disk : Disk) : Answer × Disk :=
  match request with
  | .get key => (.content (read root key disk), disk)
  | .put key content =>
      let (outcome, after) := Store.put root key content disk
      (.written outcome, after)
  | .putIfAbsent key content =>
      let (outcome, after) := Store.putIfAbsent root key content disk
      (.added outcome, after)
  | .contains key => (.present (Store.contains root key disk), disk)
  | .list start => (.keys (Store.list root start disk), disk)

/-- The answer to a request with a key that is refused. -/
def refusal (request : Request) : Answer :=
  match request with
  | .get key => .content (.error (.invalidKey key))
  | .put key _ => .written (.error (.invalidKey key))
  | .putIfAbsent key _ => .added (.error (.invalidKey key))
  | .contains _ => .present false
  | .list _ => .keys (.error (.invalidKey request.key))

theorem serve_of_not_safe {request : Request} (notSafe : ¬ Safe request.key) (root : FilePath)
    (disk : Disk) : request.serve root disk = (request.refusal, disk) := by
  have refused := objectPath_of_not_safe notSafe root
  cases request with
  | get key =>
      rw [Request.key] at refused
      rw [serve, read, refused]
      rfl
  | put key content =>
      rw [Request.key] at refused
      rw [serve, Store.put, refused]
      rfl
  | putIfAbsent key content =>
      rw [Request.key] at refused
      rw [serve, Store.putIfAbsent, refused]
      rfl
  | contains key =>
      rw [Request.key] at refused
      rw [serve, Store.contains, refused]
      rfl
  | list start =>
      rw [Request.key] at refused
      rw [serve, Store.list, refused]
      rfl

theorem confined_serve (root : FilePath) (request : Request) :
    Confined root (request.serve root) := by
  cases request with
  | get key => exact .ask fun agree => congrArg Answer.content (read_of_agree agree key)
  | put key content => exact (confined_put root key content).view Answer.written fun _ => rfl
  | putIfAbsent key content =>
      exact (confined_putIfAbsent root key content).view Answer.added fun _ => rfl
  | contains key => exact .ask fun agree => congrArg Answer.present (contains_of_agree agree key)
  | list start => exact .ask fun agree => congrArg Answer.keys (list_of_agree agree start)

end Request

/-- Serve requests one after another. -/
def serveAll (root : FilePath) : List Request → Disk → List Answer × Disk
  | [], disk => ([], disk)
  | request :: rest, disk =>
      let (answer, between) := request.serve root disk
      let (answers, after) := serveAll root rest between
      (answer :: answers, after)

/-- Requests keep to their root, by induction on them. -/
theorem confined_serveAll (root : FilePath) (requests : List Request) :
    Confined root (serveAll root requests) := by
  induction requests with
  | nil => exact .answer []
  | cons request rest hypothesis =>
      exact (request.confined_serve root).andThen fun answer =>
        hypothesis.view (answer :: ·) fun _ => rfl

/-- A key has a path exactly if it is safe.  The path goes on behind the root by at least one
name, and both the file and the directory in which it is written lie in the root.  Requests with
other keys are refused, and requests keep to the root. -/
theorem objects_stay_inside (root : FilePath) :
    (∀ key, (∃ path, objectPath root key = .ok path) ↔ Safe key) ∧
    (∀ key path, objectPath root key = .ok path →
      (∃ names : List String, names ≠ [] ∧ (∀ name ∈ names, name ≠ "." ∧ name ≠ "..") ∧
        path.components = root.components ++ names.map .name) ∧
      ∀ disk : Disk, (disk.place root).Covers (disk.place path) ∧
        (disk.place root).Covers (disk.place (path.parent?.getD ⟨""⟩))) ∧
    (∀ (request : Request) (disk : Disk), ¬ Safe request.key →
      request.serve root disk = (request.refusal, disk)) ∧
    (∀ requests, Confined root (serveAll root requests)) ∧
    (∀ requests (disk : Disk), disk.isDirectory root →
      ∀ location, ¬ (disk.place root).Covers location →
        (serveAll root requests disk).2.at? location = disk.at? location) := by
  refine ⟨fun key => ⟨?accepted, fun safe => ⟨_, objectPath_of_safe safe root⟩⟩,
    fun key path isPath => ?path,
    fun request disk notSafe => Request.serve_of_not_safe notSafe root disk,
    confined_serveAll root,
    fun requests disk isDirectory location outside =>
      (confined_serveAll root requests).unchanged isDirectory outside⟩
  case accepted =>
    rintro ⟨path, isPath⟩
    exact (objectPath_eq_ok.mp isPath).1
  case path =>
    obtain ⟨safe, rfl⟩ := objectPath_eq_ok.mp isPath
    obtain ⟨filled, inner⟩ := safe_iff.mp safe
    refine ⟨⟨(⟨key⟩ : FilePath).names, FilePath.names_ne_nil filled inner,
      fun name member => ⟨?notHere, ?notUp⟩, FilePath.components_join inner root⟩,
      fun disk => ⟨(Disk.inside_join filled inner root).covers disk,
        Disk.covers_parent filled inner root disk⟩⟩
    case notHere =>
      rintro rfl
      exact FilePath.ne_dot_of_mem_names member rfl
    case notUp =>
      rintro rfl
      exact (FilePath.isInner_iff.mp inner).2.2 member

end Store

end CertPress
