import CertPress.Proofs.Render.Stored
import CertPress.Proofs.Store.Again

/-!
# What a render adds to the disk

A preview changes nothing.  A final render changes nothing that was there, and the only files
that it adds are the embedded images of fields, each below the primary root under its own
name, whether or not the render succeeds.  Building the data once more adds nothing and
stores the same images.
-/

namespace CertPress

open Json (Object)
open Record (Category)
open Settings (RenderSettings)
open Asset (Payload Progress Resolver StoredImage)
open Disk (Follows Grows)
open Print (Machine)

namespace Render

/-! ## Files that are added -/

/-- The file that a final render of a job adds for a field with an embedded image: its path
and its content. -/
def imageFile? (settings : RenderSettings) (job : Job) (field : String) :
    Option (FilePath × Bytes) :=
  (Asset.payload? .final (referenceIn
    (Context.normalize job.template.category job.data job.facts) field)).map fun payload =>
      (settings.assetRoots.primary.directory.join (Record.Key.asset job.owner field
        (Store.shortDigest payload.content) payload.extension), payload.content)

/-- The files that a final render of a job may add to a disk. -/
def IsImageFile (settings : RenderSettings) (job : Job) (disk : Disk) (key : String)
    (content : Bytes) : Prop :=
  ∃ field ∈ job.template.category.assetFields, ∃ path,
    imageFile? settings job field = some (path, content) ∧ key = (disk.place path).key

theorem payload?_preview (reference : String) : Asset.payload? .preview reference = none := by
  unfold Asset.payload?
  split
  next => rfl
  next => cases Asset.Reference.classify reference <;> rfl

theorem disk_preview (renderer : Renderer) (job : Job) (machine : Machine) :
    (renderer.preview job machine).2.disk = machine.disk := by
  rw [machine_preview]
  refine kept_buildContext (fun disk => disk = machine.disk) ?_ rfl
  intro field _ payload isPayload
  rw [payload?_preview] at isPayload
  cases isPayload

theorem grows_buildContext (settings : RenderSettings) (job : Job) (machine : Machine) :
    Grows (IsImageFile settings job machine.disk) machine.disk
      (buildContext settings job .final machine).2.disk := by
  refine kept_buildContext (fun disk => Grows (IsImageFile settings job machine.disk)
    machine.disk disk) ?_ (.refl _ _)
  intro field isAsset payload isPayload disk grown
  have place : disk.place = machine.disk.place := by
    funext path
    rw [Disk.place, Disk.start, grown.workingDirectory, Disk.place, Disk.start]
  have grows := Store.grows_saveImage settings.assetRoots.primary.directory payload.content
    job.owner field payload.extension disk
  refine grown.trans (grows.mono fun key content isImage => ?_)
  rw [place] at isImage
  refine ⟨field, isAsset, _, ?_, isImage.1⟩
  simp only [imageFile?, isPayload, Option.map_some, isImage.2]

/-! ## Images that are stored again -/

theorem follows_resolveAll (resolver : Resolver) (data : Object) {fields : List String}
    (free : ∀ field ∈ fields, '/' ∉ field.toList) (progress : Progress) :
    Follows (resolver.storeRoot.join "certificates") progress.disk
      (resolveAll resolver data fields progress).disk := by
  refine kept_resolveAll (Follows (resolver.storeRoot.join "certificates") progress.disk)
    (fun field member payload _ disk follows => ?_) (.refl _ _)
  have plain := Record.Key.plain_image resolver.owner (free field member)
    (Store.slash_not_mem_shortDigest payload.content) payload.slash_not_mem_extension
  exact follows.trans (Store.follows_saveImage plain resolver.storeRoot disk)

/-- A field stores the same image again, on the disk that all fields leave behind. -/
theorem resolve_again {resolver : Resolver} {field reference : String}
    (free : '/' ∉ field.toList) {progress restart : Progress}
    (follows : Follows (resolver.storeRoot.join "certificates")
      (resolver.resolve field reference progress).2.disk restart.disk) :
    (resolver.resolve field reference restart).2.disk = restart.disk ∧
      ∃ added, (resolver.resolve field reference progress).2.stored = progress.stored ++ added ∧
        (resolver.resolve field reference restart).2.stored = restart.stored ++ added := by
  rw [Asset.disk_resolve, Asset.stored_resolve, Asset.stored_resolve]
  rw [Asset.disk_resolve] at follows
  cases isPayload : Asset.payload? resolver.mode reference with
  | none => exact ⟨rfl, [], rfl, rfl⟩
  | some payload =>
      simp only [isPayload] at follows ⊢
      have plain := Record.Key.plain_image resolver.owner free
        (Store.slash_not_mem_shortDigest payload.content) payload.slash_not_mem_extension
      rcases saved : Store.saveImage resolver.storeRoot payload.content resolver.owner field
        payload.extension progress.disk with ⟨result, after⟩
      rw [saved] at follows
      obtain ⟨again, savedAgain, sameResult⟩ := Store.saveImage_again plain saved follows
      simp only [savedAgain, sameResult]
      exact ⟨trivial, _, rfl, rfl⟩

/-- All fields store the same images again. -/
theorem resolveAll_again {resolver : Resolver} {data : Object} {fields : List String}
    (free : ∀ field ∈ fields, '/' ∉ field.toList) {progress restart : Progress}
    (same : restart.disk = (resolveAll resolver data fields progress).disk) :
    (resolveAll resolver data fields restart).disk = restart.disk ∧
      ∃ added, (resolveAll resolver data fields progress).stored = progress.stored ++ added ∧
        (resolveAll resolver data fields restart).stored = restart.stored ++ added := by
  induction fields generalizing progress restart with
  | nil => exact ⟨rfl, [], (List.append_nil _).symm, (List.append_nil _).symm⟩
  | cons field rest hypothesis =>
      have freeRest : ∀ other ∈ rest, '/' ∉ other.toList :=
        fun other member => free other (.tail _ member)
      rw [resolveAll_cons] at same
      rw [resolveAll_cons, resolveAll_cons]
      have follows := follows_resolveAll resolver data freeRest
        (resolver.resolve field (referenceIn data field) progress).2
      rw [← same] at follows
      obtain ⟨unchanged, first, stored, storedAgain⟩ := resolve_again (free field (.head _)) follows
      obtain ⟨unchangedRest, others, storedRest, storedRestAgain⟩ :=
        hypothesis freeRest (unchanged.trans same)
      refine ⟨unchangedRest.trans unchanged, first ++ others, ?_, ?_⟩
      · rw [storedRest, stored, List.append_assoc]
      · rw [storedRestAgain, storedAgain, List.append_assoc]

/-- Building the data again changes nothing, and ends in the same way. -/
theorem buildContext_again {settings : RenderSettings} {job : Job} {machine later : Machine}
    (same : later.disk = (buildContext settings job .final machine).2.disk) :
    (buildContext settings job .final later).2.disk = later.disk ∧
      (buildContext settings job .final later).1.map BuiltContext.stored =
        (buildContext settings job .final machine).1.map BuiltContext.stored := by
  cases isSource : source? job.template with
  | error fault =>
      simp only [buildContext, isSource, true_and]
  | ok source =>
      simp only [buildContext, isSource, buildFrom_progress] at same ⊢
      have free : ∀ field ∈ job.template.category.assetFields, '/' ∉ field.toList :=
        fun _ => Category.slash_not_mem_assetFields
      have startsThere : (Progress.start later.disk).disk = _ := same
      obtain ⟨unchanged, added, stored, storedAgain⟩ := resolveAll_again free startsThere
      refine ⟨unchanged, congrArg Except.ok ?_⟩
      rw [stored, storedAgain]
      rfl

/-! ## Renders -/

/-- A preview changes nothing.  A final render changes nothing that was there and adds no
files other than the images of fields, and building the data again from there changes
nothing and stores the same images.  A final render that wants an image which nobody can
make does not build any data. -/
theorem final_footprint (renderer : Renderer) (job : Job) (withImage : Bool) (machine : Machine)
    (leave : LeaveDisk (buildContext renderer.settings job .final machine).2.disk
      renderer.capabilities withImage) :
    (renderer.preview job machine).2.disk = machine.disk ∧
      Grows (IsImageFile renderer.settings job machine.disk) machine.disk
        (renderer.final job withImage machine).2.disk ∧
      ((withImage → renderer.capabilities.raster.isSome) →
        (buildContext renderer.settings job .final
            (renderer.final job withImage machine).2).2.disk =
          (renderer.final job withImage machine).2.disk ∧
        (buildContext renderer.settings job .final
            (renderer.final job withImage machine).2).1.map BuiltContext.stored =
          (buildContext renderer.settings job .final machine).1.map BuiltContext.stored ∧
        ∀ final after, renderer.final job withImage machine = (.ok final, after) →
          (buildContext renderer.settings job .final machine).1.map BuiltContext.stored =
            .ok final.stored) := by
  refine ⟨disk_preview renderer job machine, ?_, fun possible => ?_⟩
  · by_cases possible : withImage → renderer.capabilities.raster.isSome
    · rw [disk_final leave possible]
      exact grows_buildContext renderer.settings job machine
    · rw [final_of_no_raster job machine possible]
      exact .refl _ _
  · obtain ⟨unchanged, same⟩ := buildContext_again (disk_final leave possible)
    refine ⟨unchanged, same, fun final after rendered => ?_⟩
    obtain ⟨built, -, between, -, isBuilt, -, -, stored⟩ := final_eq_ok rendered
    rw [isBuilt, stored]
    rfl

/-- A renderer whose backend answers every document with one byte. -/
def oneByteRenderer : Renderer where
  settings := { RenderSettings.default with assetRoots := ⟨⟨⟨"m"⟩, "m"⟩, ⟨⟨"u"⟩, "u"⟩⟩ }
  capabilities := ⟨some ⟨"one", none, fun _ _ bench => (.ok [37], bench)⟩, none, none⟩

/-- A job with a photo that comes with the data. -/
def photoJob : Job where
  template :=
    { (default : Record.Template) with category := .spaTherapist, kind := .html, htmlSource := some "x" }
  data := .ofList [("passport_size_photo", .string "data:,b")]
  facts := default
  owner := .nil

theorem leaveDisk_oneByteRenderer (disk : Disk) :
    LeaveDisk disk oneByteRenderer.capabilities false where
  pdf := by
    rintro _ ⟨⟩ html job bench same
    exact same
  raster := by
    rintro ⟨⟩

/-- The photo is stored below the primary root, and stored there again. -/
theorem final_footprint_photo :
    ∃ final after, oneByteRenderer.final photoJob false (.start .empty) = (.ok final, after) ∧
      (∃ image ∈ final.stored, image.field = "passport_size_photo") ∧
      Grows (IsImageFile oneByteRenderer.settings photoJob .empty) .empty after.disk ∧
      (buildContext oneByteRenderer.settings photoJob .final after).2.disk = after.disk ∧
      (buildContext oneByteRenderer.settings photoJob .final after).1.map BuiltContext.stored =
        .ok final.stored := by
  have isBackend : oneByteRenderer.capabilities.pdfBackend? =
    some ⟨"one", none, fun _ _ bench => (.ok [37], bench)⟩ := rfl
  have renderable : source? photoJob.template = .ok "x" := rfl
  obtain ⟨final, after, rendered, -, stored⟩ :=
    exists_final renderable isBackend (fun _ _ _ => ⟨[37], rfl⟩) (.start .empty)
  have roomy : Store.Roomy (Resolver.storeRoot ⟨oneByteRenderer.settings, .final, photoJob.owner⟩) :=
    ⟨by decide, by decide⟩
  have opened : Disk.Open .empty ((⟨"m"⟩ : FilePath).join "certificates") := by
    have route : Disk.route ((⟨"m"⟩ : FilePath).join "certificates") = ["m", "certificates"] := by
      decide
    refine ⟨by decide, by decide, ?_⟩
    rw [route]
    exact ⟨by decide, by decide, by decide, by decide, trivial⟩
  have isReference : referenceIn (Context.normalize photoJob.template.category photoJob.data
      photoJob.facts) "passport_size_photo" = "data:,b" := by decide +kernel
  obtain ⟨payload, isPayload⟩ : ∃ payload, Asset.payload? .final "data:,b" = some payload :=
    Option.isSome_iff_exists.mp (by decide +kernel)
  have isStored : ∃ image ∈ final.stored, image.field = "passport_size_photo" := by
    rw [stored]
    exact exists_stored_resolveAll roomy opened (fun _ => id) (by decide)
      (isReference.symm ▸ isPayload)
  obtain ⟨-, grows, again⟩ := final_footprint oneByteRenderer photoJob false (.start .empty)
    (leaveDisk_oneByteRenderer _)
  obtain ⟨unchanged, same, reported⟩ := again fun wanted => by cases wanted
  rw [rendered] at grows unchanged same
  dsimp only at grows unchanged same
  exact ⟨final, after, rendered, isStored, grows, unchanged,
    same.trans (reported final after rendered)⟩

end Render

end CertPress
