import CertPress.Proofs.Store.Call
import Mathlib.Data.List.Dedup

/-!
# Many calls to a store

Images and artifacts are stored one after another below a root that was empty.  The mapping
that the store holds is that of the calls that succeeded, by induction on the calls.  So no
image is lost, an artifact is the latest one, and there is one file for each of them.
-/

namespace CertPress.Store

open Record (Category)

variable {root : FilePath} {disk after : Disk}

/-- Calls one after another, with their outcomes. -/
def run (root : FilePath) : List Call → Disk → List (Call × Except StoreFault String) × Disk
  | [], disk => ([], disk)
  | call :: rest, disk =>
      let (outcome, after) := call.save root disk
      let (outcomes, last) := run root rest after
      ((call, outcome) :: outcomes, last)

/-- The calls that succeeded. -/
def done (outcomes : List (Call × Except StoreFault String)) : List Call :=
  outcomes.filterMap fun (call, outcome) => outcome.toOption.map fun _ => call

/-- What makes the images one of their own that were stored. -/
def images (outcomes : List (Call × Except StoreFault String)) :
    List (Uuid × String × Bytes × String) :=
  (done outcomes).filterMap Call.image?

/-- What makes the artifacts one of their own that were stored. -/
def artifacts (outcomes : List (Call × Except StoreFault String)) : List (Uuid × String) :=
  (done outcomes).filterMap Call.artifact?

/-- The last call that stored an artifact of a document with an extension. -/
def latest? (outcomes : List (Call × Except StoreFault String)) (document : Uuid)
    (extension : String) : Option Call :=
  (done outcomes).reverse.find? fun call => call.artifact? = some (document, extension)

/-- The store has everything that was stored: each image under the path that was returned for
it, each artifact as it was stored last, and a file for each of them. -/
structure Complete (root : FilePath) (outcomes : List (Call × Except StoreFault String))
    (disk : Disk) : Prop where
  image : ∀ document kind content extension path,
    (Call.image document kind content extension, .ok path) ∈ outcomes →
      read root path disk = .ok content
  artifact : ∀ document content extension path,
    (Call.artifact document content extension, .ok path) ∈ outcomes →
      ∃ latest, latest? outcomes document extension = some latest ∧
        read root path disk = .ok latest.content
  files : (disk.tree (disk.place root)).length =
    (images outcomes).dedup.length + (artifacts outcomes).dedup.length

/-- The mapping of calls that succeed one after another. -/
def contents (calls : List Call) : Mapping Bytes :=
  Mapping.ofList (calls.map fun call => (call.key, call.content))

/-! ## Many calls -/

section Contents

variable {call : Call} {calls : List Call}

theorem contents_concat (calls : List Call) (call : Call) :
    contents (calls ++ [call]) = (contents calls).insert call.key call.content := by
  simp [contents, Mapping.ofList, Mapping.insertAll]

theorem contains_contents {key : String} :
    (contents calls).contains key ↔ ∃ call ∈ calls, call.key = key := by
  simp [contents, Mapping.contains_ofList]

theorem exists_of_get?_contents {key : String} {content : Bytes}
    (found : (contents calls).get? key = some content) :
    ∃ call ∈ calls, call.key = key ∧ call.content = content := by
  rcases Mapping.get?_insertAll_eq_some found with isEmpty | member
  · cases isEmpty
  · obtain ⟨call, isCall, same⟩ := List.mem_map.mp member
    cases same
    exact ⟨call, isCall, rfl, rfl⟩

/-- A key has the content of the last call with the key. -/
theorem get?_contents {later : List Call} (last : ¬ ∃ other ∈ later, other.key = call.key) :
    (contents (calls ++ call :: later)).get? call.key = some call.content := by
  have split : contents (calls ++ call :: later) = (contents (calls ++ [call])).insertAll
      (later.map fun call => (call.key, call.content)) := by
    simp [contents, Mapping.ofList, Mapping.insertAll]
  rw [split, Mapping.get?_insertAll_other (by simpa using last), contents_concat,
    Mapping.get?_insert, if_pos rfl]

end Contents

section Run

variable {outcomes earlier later : List (Call × Except StoreFault String)} {call : Call}
variable {outcome : Except StoreFault String} {path : String}

theorem done_append : done (earlier ++ later) = done earlier ++ done later :=
  List.filterMap_append

theorem mem_done : call ∈ done outcomes ↔ ∃ path, (call, .ok path) ∈ outcomes := by
  rw [done, List.mem_filterMap]
  constructor
  · rintro ⟨⟨other, outcome⟩, member, isDone⟩
    cases outcome with
    | error fault => cases isDone
    | ok path =>
        cases isDone
        exact ⟨path, member⟩
  · rintro ⟨path, member⟩
    exact ⟨_, member, rfl⟩

theorem insertIfOk_contents (prior : List Call) (call : Call)
    (outcome : Except StoreFault String) :
    insertIfOk (contents prior) call.key call.content outcome =
      contents (prior ++ done [(call, outcome)]) := by
  cases outcome with
  | error fault => simp [done, insertIfOk, Except.toOption]
  | ok path => simp [done, insertIfOk, Except.toOption, contents_concat]

theorem run_cons (saved : call.save root disk = (outcome, after)) (calls : List Call) :
    run root (call :: calls) disk =
      ((call, outcome) :: (run root calls after).1, (run root calls after).2) := by
  rw [run, saved]

theorem of_mem_run {calls : List Call} (member : (call, outcome) ∈ (run root calls disk).1) :
    call ∈ calls ∧ ∀ path, outcome = .ok path → path = call.key := by
  induction calls generalizing disk with
  | nil => cases member
  | cons first rest hypothesis =>
      rcases saved : first.save root disk with ⟨result, between⟩
      rw [run_cons saved] at member
      rcases List.mem_cons.mp member with same | inRest
      · cases same
        refine ⟨.head _, fun path isOk => ?_⟩
        subst isOk
        exact Call.eq_key_of_save saved
      · exact (hypothesis inRest).imp_left (.tail _)

/-- A store that holds what some of the calls stored. -/
structure HoldsSome (calls prior : List Call) (root : FilePath) (disk : Disk) : Prop where
  sub : prior ⊆ calls
  holds : Holds root "certificates" (contents prior) disk

variable {calls prior rest : List Call} (allowed : ∀ call ∈ calls, call.Allowed)
variable (distinct : CollisionFree calls)
include allowed distinct

/-- A call stores its bytes in a store that holds what earlier ones stored. -/
theorem HoldsSome.save (held : HoldsSome calls prior root disk) (member : call ∈ calls)
    (saved : call.save root disk = (outcome, after)) :
    HoldsSome calls (prior ++ done [(call, outcome)]) root after := by
  constructor
  · refine List.append_subset.mpr ⟨held.sub, fun other isDone => ?_⟩
    obtain ⟨path, isCall⟩ := mem_done.mp isDone
    cases List.mem_singleton.mp isCall
    exact member
  · rw [← insertIfOk_contents]
    refine holds_save held.holds (allowed call member) (fun isImage content isStored => ?_) saved
    -- An image with the same key is the same one.
    obtain ⟨other, isPrior, sameKey, rfl⟩ := exists_of_get?_contents isStored
    exact Call.content_eq_of_image? isImage
      (Call.key_inj allowed distinct (held.sub isPrior) member sameKey).1

theorem HoldsSome.run (held : HoldsSome calls prior root disk) (sub : rest ⊆ calls) :
    HoldsSome calls (prior ++ done (run root rest disk).1) root (run root rest disk).2 := by
  induction rest generalizing prior disk with
  | nil => simpa [Store.run, done] using held
  | cons call others hypothesis =>
      rcases saved : call.save root disk with ⟨outcome, after⟩
      have heldAfter := held.save allowed distinct (sub (.head _)) saved
      have heldLast := hypothesis heldAfter fun other member => sub (.tail _ member)
      rw [List.append_assoc, ← done_append, List.singleton_append] at heldLast
      rw [run_cons saved]
      exact heldLast

/-- All calls succeed if their directory is there or can be made. -/
theorem HoldsSome.run_of_open (held : HoldsSome calls prior root disk) (sub : rest ⊆ calls)
    (roomy : Roomy root) (opened : disk.Open (root.join "certificates")) :
    (Store.run root rest disk).1 = rest.map fun call => (call, .ok call.key) := by
  induction rest generalizing prior disk with
  | nil => rfl
  | cons call others hypothesis =>
      have member := sub (.head _)
      obtain ⟨after, saved, stays⟩ :=
        save_of_open held.holds (allowed call member) roomy opened
      have heldAfter := held.save allowed distinct member saved
      rw [run_cons saved, hypothesis heldAfter (fun other member => sub (.tail _ member)) stays,
        List.map_cons]

end Run

/-! ## What is stored in the end -/

section Complete

variable {calls prior : List Call} {outcomes : List (Call × Except StoreFault String)}
variable {call : Call}

/-- The key of an image. -/
def imageKey : Uuid × String × Bytes × String → String
  | (document, kind, content, extension) =>
      Record.Key.asset document kind (shortDigest content) extension

/-- The key of an artifact. -/
def artifactKey : Uuid × String → String
  | (document, extension) => Record.Key.artifact document extension

theorem key_of_image? {image : Uuid × String × Bytes × String}
    (isImage : call.image? = some image) : call.key = imageKey image := by
  cases call with
  | image _ _ _ _ =>
      cases isImage
      rfl
  | artifact _ _ _ => cases isImage

theorem key_of_artifact? {artifact : Uuid × String}
    (isArtifact : call.artifact? = some artifact) : call.key = artifactKey artifact := by
  cases call with
  | image _ _ _ _ => cases isArtifact
  | artifact _ _ _ =>
      cases isArtifact
      rfl

theorem image?_or_artifact? (call : Call) : call.image?.isSome ∨ call.artifact?.isSome := by
  cases call with
  | image _ _ _ _ => exact .inl rfl
  | artifact _ _ _ => exact .inr rfl

theorem not_image?_and_artifact? (call : Call) : ¬ (call.image?.isSome ∧ call.artifact?.isSome) := by
  cases call <;> simp [Call.image?, Call.artifact?]

section Part

-- The images and the artifacts are counted alike, as what some of the calls have.
variable {Part : Type} {part? : Call → Option Part} {partKey : Part → String}
variable (key_of_part? : ∀ {call : Call} {part : Part}, part? call = some part →
  call.key = partKey part)
include key_of_part?

theorem mem_map_partKey [DecidableEq Part] {key : String} :
    key ∈ (calls.filterMap part?).dedup.map partKey ↔
      ∃ call ∈ calls, (part? call).isSome ∧ call.key = key := by
  simp only [List.mem_map, List.mem_dedup, List.mem_filterMap]
  constructor
  · rintro ⟨part, ⟨call, member, isPart⟩, rfl⟩
    exact ⟨call, member, Option.isSome_iff_exists.mpr ⟨part, isPart⟩, key_of_part? isPart⟩
  · rintro ⟨call, member, hasPart, rfl⟩
    obtain ⟨part, isPart⟩ := Option.isSome_iff_exists.mp hasPart
    exact ⟨part, ⟨call, member, isPart⟩, (key_of_part? isPart).symm⟩

/-- Different parts have different keys if the key of a call tells its part. -/
theorem nodup_map_partKey [DecidableEq Part] (part?_of_key : ∀ call ∈ calls, ∀ other ∈ calls,
    call.key = other.key → part? call = part? other) :
    ((calls.filterMap part?).dedup.map partKey).Nodup := by
  refine (List.nodup_dedup _).map_on fun part inParts other otherInParts same => ?_
  obtain ⟨call, member, isPart⟩ := List.mem_filterMap.mp (List.mem_dedup.mp inParts)
  obtain ⟨third, otherMember, isOther⟩ := List.mem_filterMap.mp (List.mem_dedup.mp otherInParts)
  rw [← key_of_part? isPart, ← key_of_part? isOther] at same
  have sameParts := part?_of_key call member third otherMember same
  rw [isPart, isOther] at sameParts
  exact Option.some.inj sameParts

end Part

variable (allowed : ∀ call ∈ calls, call.Allowed) (distinct : CollisionFree calls)
variable (sub : done outcomes ⊆ calls)
include allowed distinct sub

/-- The keys of the images and artifacts that were stored are different. -/
theorem nodup_keys : ((images outcomes).dedup.map imageKey ++
    (artifacts outcomes).dedup.map artifactKey).Nodup := by
  have inj : ∀ call ∈ done outcomes, ∀ other ∈ done outcomes, call.key = other.key →
      call.image? = other.image? ∧ call.artifact? = other.artifact? :=
    fun call isDone other otherDone => Call.key_inj allowed distinct (sub isDone) (sub otherDone)
  refine List.nodup_append.mpr ⟨?_, ?_, ?_⟩
  · exact nodup_map_partKey key_of_image? fun call isDone other otherDone same =>
      (inj call isDone other otherDone same).1
  · exact nodup_map_partKey key_of_artifact? fun call isDone other otherDone same =>
      (inj call isDone other otherDone same).2
  · intro key isImageKey other isArtifactKey same
    obtain ⟨call, isDone, isImage, rfl⟩ := (mem_map_partKey key_of_image?).mp isImageKey
    obtain ⟨third, thirdDone, isArtifact, rfl⟩ :=
      (mem_map_partKey key_of_artifact?).mp isArtifactKey
    rw [← (inj call isDone third thirdDone same).2] at isArtifact
    exact not_image?_and_artifact? call ⟨isImage, isArtifact⟩

/-- There is one file for each image and each artifact. -/
theorem length_tree (holds : Holds root "certificates" (contents (done outcomes)) after) :
    (after.tree (after.place root)).length =
      (images outcomes).dedup.length + (artifacts outcomes).dedup.length := by
  have members (relative : String) : relative ∈ after.tree (after.place root) ↔
      relative ∈ (images outcomes).dedup.map imageKey ++
        (artifacts outcomes).dedup.map artifactKey := by
    rw [holds.mem_tree, contains_contents, List.mem_append, images, artifacts,
      mem_map_partKey key_of_image?, mem_map_partKey key_of_artifact?]
    constructor
    · rintro ⟨call, isDone, isKey⟩
      exact (image?_or_artifact? call).imp (fun isImage => ⟨call, isDone, isImage, isKey⟩)
        fun isArtifact => ⟨call, isDone, isArtifact, isKey⟩
    · rintro (⟨call, isDone, -, isKey⟩ | ⟨call, isDone, -, isKey⟩)
      · exact ⟨call, isDone, isKey⟩
      · exact ⟨call, isDone, isKey⟩
  have perm := (List.perm_ext_iff_of_nodup (after.nodup_tree _)
    (nodup_keys allowed distinct sub)).mpr members
  rw [perm.length_eq, List.length_append, List.length_map, List.length_map]

/-- The bytes of an image are read under its key. -/
theorem read_image (holds : Holds root "certificates" (contents (done outcomes)) after)
    (isDone : call ∈ done outcomes) (isImage : call.image?.isSome) :
    read root call.key after = .ok call.content := by
  obtain ⟨content, isStored⟩ :=
    Option.isSome_iff_exists.mp (contains_contents.mpr ⟨call, isDone, rfl⟩)
  obtain ⟨other, otherDone, sameKey, rfl⟩ := exists_of_get?_contents isStored
  have sameContent : other.content = call.content := Call.content_eq_of_image? isImage
    (Call.key_inj allowed distinct (sub otherDone) (sub isDone) sameKey).1
  rw [← sameContent]
  exact (holds.object _ _ isStored).2

/-- The bytes of the latest artifact are read under its key. -/
theorem read_artifact (holds : Holds root "certificates" (contents (done outcomes)) after)
    (isDone : call ∈ done outcomes) {document : Uuid} {extension : String}
    (isArtifact : call.artifact? = some (document, extension)) :
    ∃ latest, latest? outcomes document extension = some latest ∧
      read root call.key after = .ok latest.content := by
  obtain ⟨latest, found⟩ : ∃ latest, latest? outcomes document extension = some latest := by
    rw [latest?, ← Option.isSome_iff_exists, List.find?_isSome]
    exact ⟨call, List.mem_reverse.mpr isDone, by simpa using isArtifact⟩
  refine ⟨latest, found, ?_⟩
  obtain ⟨isLatest, behind, before, split, noneBehind⟩ := List.find?_eq_some_iff_append.mp found
  have isLatest : latest.artifact? = some (document, extension) := by simpa using isLatest
  have order : done outcomes = before.reverse ++ latest :: behind.reverse := by
    rw [← List.reverse_reverse (done outcomes), split]
    simp
  have latestDone : latest ∈ done outcomes := by simp [order]
  have last : ¬ ∃ other ∈ behind.reverse, other.key = latest.key := by
    rintro ⟨other, isBehind, sameKey⟩
    have otherDone : other ∈ done outcomes := by
      rw [order]
      exact List.mem_append_right _ (.tail _ isBehind)
    have same := (Call.key_inj allowed distinct (sub otherDone) (sub latestDone) sameKey).2
    have notArtifact := noneBehind other (List.mem_reverse.mp isBehind)
    simp [same, isLatest] at notArtifact
  have isStored : (contents (before.reverse ++ latest :: behind.reverse)).get? latest.key =
      some latest.content := get?_contents last
  rw [← order] at isStored
  rw [key_of_artifact? isArtifact, ← key_of_artifact? isLatest]
  exact (holds.object _ _ isStored).2

end Complete

/-- Images and artifacts that are stored below an empty root are neither lost nor mixed up,
whether or not some calls fail.  If there is room for the keys and their directory can be made
then none fails. -/
theorem run_complete {calls : List Call} (nothing : disk.below (disk.place root) = [])
    (straight : Straight root disk) (allowed : ∀ call ∈ calls, call.Allowed)
    (distinct : CollisionFree calls) :
    Complete root (run root calls disk).1 (run root calls disk).2 ∧
      (Roomy root → disk.Open (root.join "certificates") →
        (run root calls disk).1 = calls.map fun call => (call, .ok call.key)) := by
  have start : HoldsSome calls [] root disk :=
    ⟨List.nil_subset _, holds_empty straight nothing "certificates"⟩
  refine ⟨?_, start.run_of_open allowed distinct (List.Subset.refl _)⟩
  obtain ⟨sub, holds⟩ := start.run allowed distinct (List.Subset.refl _)
  rw [List.nil_append] at sub holds
  constructor
  · intro document kind content extension path member
    obtain ⟨-, isKey⟩ := of_mem_run member
    rw [isKey path rfl]
    exact read_image allowed distinct sub holds (mem_done.mpr ⟨path, member⟩) rfl
  · intro document content extension path member
    obtain ⟨-, isKey⟩ := of_mem_run member
    rw [isKey path rfl]
    exact read_artifact allowed distinct sub holds (mem_done.mpr ⟨path, member⟩) rfl
  · exact length_tree allowed distinct sub holds

/-- Two images of a document, one of which is stored again, and two renders of it. -/
def renders : List Call :=
  [.image ⟨1⟩ "candidate_photo" [97] "png", .artifact ⟨1⟩ [1] "pdf",
   .image ⟨1⟩ "candidate_photo" [98] "png", .image ⟨1⟩ "candidate_photo" [97] "png",
   .artifact ⟨1⟩ [2] "pdf"]

theorem run_complete_renders :
    Complete ⟨"media"⟩ (run ⟨"media"⟩ renders Disk.empty).1 (run ⟨"media"⟩ renders Disk.empty).2 ∧
      (run ⟨"media"⟩ renders Disk.empty).1 = renders.map (fun call => (call, .ok call.key)) ∧
      ((run ⟨"media"⟩ renders Disk.empty).2.tree
        ((run ⟨"media"⟩ renders Disk.empty).2.place ⟨"media"⟩)).length = 3 := by
  have allowed : ∀ call ∈ renders, call.Allowed := by
    have isImage : IsExtension "png" := .inl ⟨⟨"image/png", []⟩, rfl⟩
    have isPdf : IsExtension "pdf" := .inr ⟨.pdf, rfl⟩
    have isKind : ∃ category : Category, "candidate_photo" ∈ category.assetFields :=
      ⟨.idCard, by decide⟩
    simp only [renders, List.forall_mem_cons]
    exact ⟨⟨isKind, isImage⟩, isPdf, ⟨isKind, isImage⟩, ⟨isKind, isImage⟩, isPdf,
      fun _ member => absurd member List.not_mem_nil⟩
  have distinct : CollisionFree renders := by
    have digests : shortDigest [97] ≠ shortDigest [98] := by decide +kernel
    have member {content : Bytes} (isImage : ∃ document kind extension,
        Call.image document kind content extension ∈ renders) :
        content = [97] ∨ content = [98] := by
      obtain ⟨document, kind, extension, isCall⟩ := isImage
      simp only [renders, List.mem_cons, Call.image.injEq, List.not_mem_nil, or_false,
        reduceCtorEq, false_or] at isCall
      rcases isCall with same | same | same
      · exact .inl same.2.2.1
      · exact .inr same.2.2.1
      · exact .inl same.2.2.1
    intro content isImage other otherIsImage same
    rcases member isImage with rfl | rfl <;> rcases member otherIsImage with rfl | rfl
    · rfl
    · exact absurd same digests
    · exact absurd same.symm digests
    · rfl
  have roomy : Roomy ⟨"media"⟩ := ⟨by decide, by decide⟩
  have opened : Disk.empty.Open ((⟨"media"⟩ : FilePath).join "certificates") :=
    Disk.open_empty (by decide) (by decide)
  have nothing : Disk.empty.below (Disk.empty.place ⟨"media"⟩) = [] := rfl
  obtain ⟨complete, outcomes⟩ := run_complete nothing (.inr (by decide)) allowed distinct
  refine ⟨complete, outcomes roomy opened, ?_⟩
  rw [complete.files, outcomes roomy opened]
  decide

end CertPress.Store
