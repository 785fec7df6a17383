import CertPress.Proofs.Render.Outcome
import CertPress.Proofs.Store.Beside
import Mathlib.Data.List.Find

/-!
# Renders on disks that look the same

A final render reads nothing of the disk but what lies below the roots of images.  On two disks
whose roots look the same its references have the same addresses, so it fills in the same
page, and a backend that answers from the page alone makes the same PDF of it.
-/

namespace CertPress

open Json (Object)
open Settings (AssetRoot RenderSettings)
open Asset (Payload Progress Reference Resolver)
open Print (Capabilities Machine)
open Store (Alike)

/-- The directories in which images are looked for. -/
def Settings.RenderSettings.imageRoots (settings : RenderSettings) : List FilePath :=
  settings.assetRoots.inOrder.map AssetRoot.directory

/-- The backend that makes PDFs answers from the document and the job alone. -/
def Print.Capabilities.PdfFunctional (capabilities : Capabilities) : Prop :=
  ∀ backend, capabilities.pdfBackend? = some backend → ∀ html job bench other,
    (backend.render html job bench).1 = (backend.render html job other).1

namespace Asset

/-! ## One reference -/

section Reference

variable {resolver : Resolver} {progress other : Progress} (field : String)
variable (alike : Alike resolver.settings.imageRoots progress.disk other.disk)
include alike

theorem resolveStored_alike (path : String) :
    (resolver.resolveStored field path other).1 =
      (resolver.resolveStored field path progress).1 := by
  have sameRoot (relative : String) :
      (resolver.roots.find? fun root => Store.contains root.directory relative other.disk) =
        resolver.roots.find? fun root => Store.contains root.directory relative progress.disk := by
    refine List.find?_congr fun root member => ?_
    exact alike.contains (List.mem_map_of_mem member) relative
  simp only [Resolver.resolveStored, sameRoot]
  cases resolver.mode with
  | preview => rfl
  | final =>
      dsimp only
      split
      next => rfl
      next => rfl

theorem localize_alike (address : String) :
    (resolver.localize field address other).1 = (resolver.localize field address progress).1 := by
  unfold Resolver.localize
  split
  next => rfl
  next =>
    split
    next => rfl
    next =>
      split
      next => exact resolveStored_alike field alike _
      next => rfl

variable (free : '/' ∉ field.toList)
include free

/-- The image of a payload is stored below the primary root. -/
theorem saveImage_alike (payload : Payload) :
    (Store.saveImage resolver.storeRoot payload.content resolver.owner field payload.extension
        other.disk).1 =
      (Store.saveImage resolver.storeRoot payload.content resolver.owner field payload.extension
        progress.disk).1 ∧
    Alike resolver.settings.imageRoots
      (Store.saveImage resolver.storeRoot payload.content resolver.owner field payload.extension
        progress.disk).2
      (Store.saveImage resolver.storeRoot payload.content resolver.owner field payload.extension
        other.disk).2 := by
  have plain := Record.Key.plain_image resolver.owner free
    (Store.slash_not_mem_shortDigest payload.content) payload.slash_not_mem_extension
  exact alike.saveImage (List.mem_map_of_mem (.head _)) plain

theorem resolveEmbedded_alike (address : String) :
    (resolver.resolveEmbedded field address other).1 =
      (resolver.resolveEmbedded field address progress).1 := by
  unfold Resolver.resolveEmbedded
  split
  next => rfl
  next payload _ =>
    obtain ⟨sameResult, alikeAfter⟩ := saveImage_alike field alike free payload
    rcases saved : Store.saveImage resolver.storeRoot payload.content resolver.owner field
      payload.extension progress.disk with ⟨result, disk⟩
    rcases otherSaved : Store.saveImage resolver.storeRoot payload.content resolver.owner field
      payload.extension other.disk with ⟨otherResult, otherDisk⟩
    rw [saved, otherSaved] at sameResult alikeAfter
    dsimp only at sameResult
    subst sameResult
    cases otherResult with
    | error fault => rfl
    | ok path =>
        have alikeStored : Alike resolver.settings.imageRoots
          (Progress.disk { progress with disk }) (Progress.disk { other with disk := otherDisk }) :=
            alikeAfter
        exact resolveStored_alike field alikeStored path

/-- A reference has the same address on both disks, and they still look the same. -/
theorem resolve_alike (reference : String) :
    (resolver.resolve field reference other).1 = (resolver.resolve field reference progress).1 ∧
      Alike resolver.settings.imageRoots (resolver.resolve field reference progress).2.disk
        (resolver.resolve field reference other).2.disk := by
  constructor
  · unfold Resolver.resolve
    split
    next => rfl
    next =>
      split
      next => exact resolveStored_alike field alike _
      next => exact resolveEmbedded_alike field alike free _
      next => exact localize_alike field alike _
      next => rfl
      next => rfl
  · rw [disk_resolve, disk_resolve]
    split
    next => exact alike
    next payload _ => exact (saveImage_alike field alike free payload).2

end Reference

end Asset

namespace Render

/-! ## The data of a job -/

section Fields

variable {resolver : Resolver} {progress other : Progress}

theorem resolveField_alike {field : String} (free : '/' ∉ field.toList)
    (alike : Alike resolver.settings.imageRoots progress.disk other.disk) (context : Object) :
    (resolveField resolver (context, other) field).1 =
        (resolveField resolver (context, progress) field).1 ∧
      Alike resolver.settings.imageRoots (resolveField resolver (context, progress) field).2.disk
        (resolveField resolver (context, other) field).2.disk := by
  unfold resolveField
  dsimp only
  split
  next => exact ⟨rfl, alike⟩
  next =>
    obtain ⟨sameAddress, alikeAfter⟩ := Asset.resolve_alike field alike free
      (((context.get? field).bind Json.Value.string?).getD "")
    exact ⟨by rw [sameAddress], alikeAfter⟩

/-- The fields have the same addresses, by induction on them. -/
theorem resolveFields_alike {fields : List String} (free : ∀ field ∈ fields, '/' ∉ field.toList)
    (alike : Alike resolver.settings.imageRoots progress.disk other.disk) (context : Object) :
    (fields.foldl (resolveField resolver) (context, other)).1 =
        (fields.foldl (resolveField resolver) (context, progress)).1 ∧
      Alike resolver.settings.imageRoots
        (fields.foldl (resolveField resolver) (context, progress)).2.disk
        (fields.foldl (resolveField resolver) (context, other)).2.disk := by
  induction fields generalizing progress other context with
  | nil => exact ⟨rfl, alike⟩
  | cons field rest hypothesis =>
      obtain ⟨sameContext, alikeAfter⟩ := resolveField_alike (free field (.head _)) alike context
      rw [List.foldl_cons, List.foldl_cons]
      rcases step : resolveField resolver (context, progress) field with ⟨next, noted⟩
      rcases otherStep : resolveField resolver (context, other) field with ⟨otherNext, otherNoted⟩
      rw [step, otherStep] at sameContext alikeAfter
      dsimp only at sameContext alikeAfter
      subst sameContext
      exact hypothesis (fun last member => free last (.tail _ member)) alikeAfter otherNext

end Fields

variable {renderer : Renderer} {job : Job} {machine other after : Machine}
variable (alike : Alike renderer.settings.imageRoots machine.disk other.disk)
include alike

/-- The data of a job is the same. -/
theorem buildContext_alike {built : BuiltContext} {between : Machine}
    (isBuilt : buildContext renderer.settings job .final other = (.ok built, between)) :
    ∃ same earlier, buildContext renderer.settings job .final machine = (.ok same, earlier) ∧
      fill same = fill built := by
  obtain ⟨renderable, isContext, -, -⟩ := buildContext_eq_ok isBuilt
  have sameContext : (buildFrom renderer.settings job .final other.disk).1 =
      (buildFrom renderer.settings job .final machine.disk).1 := by
    have alikeStart : Alike (Resolver.settings ⟨renderer.settings, .final, job.owner⟩).imageRoots
      (Progress.start machine.disk).disk (Progress.start other.disk).disk := alike
    have free : ∀ field ∈ job.template.category.assetFields, '/' ∉ field.toList :=
      fun _ => Record.Category.slash_not_mem_assetFields
    have resolved := (resolveFields_alike free alikeStart
      (Context.normalize job.template.category job.data job.facts)).1
    simp only [buildFrom, resolved]
  obtain ⟨same, earlier, isSame, same_eq⟩ :=
    buildContext_eq job renderable renderer.settings .final machine
  have sameSource := renderable.symm.trans (buildContext_eq_ok isSame).1
  refine ⟨same, earlier, isSame, ?_⟩
  rw [fill, fill, Except.ok.inj sameSource, isContext, sameContext, same_eq]

/-- A backend that answers from the document alone gives the same answer. -/
theorem answered_alike (functional : renderer.capabilities.PdfFunctional)
    {answer : Except Print.BackendFault Bytes} (answered : Answered renderer job other answer) :
    Answered renderer job machine answer := by
  obtain ⟨built, between, html, backend, bench, isBuilt, filled, isBackend, isAnswer⟩ := answered
  obtain ⟨same, earlier, isSame, sameFill⟩ := buildContext_alike alike isBuilt
  have sameAnswer : (backend.render html renderer.converter.job ⟨earlier.disk, earlier.fonts⟩).1 =
      answer := by
    rw [functional backend isBackend html _ _ ⟨between.disk, between.fonts⟩, isAnswer]
  exact ⟨same, earlier, html, backend, _, isSame, sameFill.trans filled, isBackend,
    Prod.ext sameAnswer rfl⟩

/-- A render that succeeds succeeds on both disks, with the same PDF. -/
theorem final_alike (functional : renderer.capabilities.PdfFunctional) {final : Final}
    (rendered : renderer.final job false other = (.ok final, after)) :
    ∃ same last, renderer.final job false machine = (.ok same, last) ∧ same.pdf = final.pdf := by
  have answered := answered_alike alike functional (answered_of_final rendered)
  rcases outcome : renderer.final job false machine with ⟨fault | same, last⟩
  · exact absurd (fails_of_final outcome) (not_fails_of_answered answered)
  · exact ⟨same, last, rfl, Except.ok.inj (answered_unique (answered_of_final outcome) answered)⟩

end Render

end CertPress
