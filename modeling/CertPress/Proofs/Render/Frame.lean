import CertPress.Proofs.Render.Materialize
import CertPress.Proofs.Store.Frame

/-!
# What a render leaves alone

A render stores images, whose names are those of no record and of no PDF.  As long as
the backends leave the files of documents alone, a render does so too, whether or not it
succeeds.
-/

namespace CertPress

open Json (Object)
open Store (Spared)
open Asset (Progress Resolver)
open Print (Capabilities Converter Machine)

variable {records images : FilePath}

/-- The backend that makes PDFs leaves the files of documents alone. -/
def Print.Capabilities.PdfSpares (capabilities : Capabilities) (records images : FilePath) : Prop :=
  ∀ backend, capabilities.pdfBackend? = some backend → ∀ html job bench,
    Spared records images bench.disk (backend.render html job bench).2.disk

/-- The backend that makes images of PDFs leaves the files of documents alone. -/
def Print.Capabilities.RasterSpares (capabilities : Capabilities) (records images : FilePath) :
    Prop :=
  ∀ backend, capabilities.raster = some backend → ∀ content options bench,
    Spared records images bench.disk (backend.rasterize content options bench).2.disk

namespace Render

/-- What storing the images keeps, building the data keeps. -/
theorem kept_buildContext (holds : Disk → Prop) {settings : Settings.RenderSettings} {job : Job}
    {mode : Record.RenderMode} (saves : ∀ field ∈ job.template.category.assetFields, ∀ payload,
      Asset.payload? mode (referenceIn (Context.normalize job.template.category job.data job.facts)
        field) = some payload →
      ∀ disk, holds disk → holds (Store.saveImage settings.assetRoots.primary.directory
        payload.content job.owner field payload.extension disk).2)
    {machine : Machine} (atFirst : holds machine.disk) :
    holds (buildContext settings job mode machine).2.disk := by
  unfold buildContext
  split
  next => exact atFirst
  next =>
    change holds (buildFrom settings job mode machine.disk).2.disk
    rw [buildFrom_progress]
    refine kept_resolveAll holds ?_ ?_
    · exact saves
    · exact atFirst

theorem spared_buildContext (settings : Settings.RenderSettings) (job : Job)
    (mode : Record.RenderMode) (machine : Machine) :
    Spared records images machine.disk (buildContext settings job mode machine).2.disk := by
  refine kept_buildContext (Spared records images machine.disk)
    (fun field member payload _ disk spared => ?_) (.refl _)
  exact spared.trans (Store.spared_saveImage _ payload.content job.owner
    (Record.Category.slash_not_mem_assetFields member) payload.slash_not_mem_extension disk)

/-- After its data is built, a preview does nothing to the machine. -/
theorem machine_preview (renderer : Renderer) (job : Job) (machine : Machine) :
    (renderer.preview job machine).2 =
      (buildContext renderer.settings job .preview machine).2 := by
  rw [Renderer.preview, Action.run_bind]
  rcases buildContext renderer.settings job .preview machine with ⟨fault | built, between⟩
  · rfl
  · dsimp only
    rw [Action.run_bind]
    cases fill built with
    | error fault => rfl
    | ok html => rfl

theorem spared_preview (renderer : Renderer) (job : Job) (machine : Machine) :
    Spared records images machine.disk (renderer.preview job machine).2.disk := by
  rw [machine_preview]
  exact spared_buildContext renderer.settings job .preview machine

/-! ## Backends -/

/-- What the backends of a final render do to the disk. -/
structure BackendsDo (Rel : Disk → Disk → Prop) (capabilities : Capabilities) (withImage : Bool) :
    Prop where
  pdf : ∀ backend, capabilities.pdfBackend? = some backend → ∀ html job bench,
    Rel bench.disk (backend.render html job bench).2.disk
  raster : withImage → ∀ backend, capabilities.raster = some backend → ∀ content options bench,
    Rel bench.disk (backend.rasterize content options bench).2.disk

/-- What two steps of a render do to the disk. -/
theorem rel_bind (Rel : Disk → Disk → Prop)
    (trans : ∀ {first second third : Disk}, Rel first second → Rel second third → Rel first third)
    {α β : Type} {action : Print.RenderAction α} {next : α → Print.RenderAction β}
    {machine : Machine} (first : Rel machine.disk (action machine).2.disk)
    (second : ∀ value (between : Machine), Rel between.disk (next value between).2.disk) :
    Rel machine.disk ((action >>= next) machine).2.disk :=
  Action.rel_bind (fun before after : Machine => Rel before.disk after.disk) trans first
    fun value between _ => second value between

section Backends

variable {Rel : Disk → Disk → Prop} (refl : ∀ disk, Rel disk disk)
  (trans : ∀ {first second third : Disk}, Rel first second → Rel second third → Rel first third)
  {renderer : Renderer} {withImage : Bool}
  (does : BackendsDo Rel renderer.capabilities withImage)

include refl does

theorem rel_toPdf (html : String) (machine : Machine) :
    Rel machine.disk (renderer.converter.toPdf html machine).2.disk := by
  cases isBackend : renderer.capabilities.pdfBackend? with
  | none =>
      simp only [Converter.toPdf, Renderer.converter, isBackend]
      exact refl machine.disk
  | some backend =>
      simp only [Converter.toPdf, Renderer.converter, isBackend]
      exact does.pdf backend isBackend html _ ⟨machine.disk, machine.fonts⟩

theorem rel_pdfToImage (isWanted : withImage) (pdf : Bytes) (options : Settings.RasterOptions)
    (machine : Machine) :
    Rel machine.disk (renderer.converter.pdfToImage pdf options machine).2.disk := by
  cases isBackend : renderer.capabilities.raster with
  | none =>
      simp only [Converter.pdfToImage, Renderer.converter, isBackend]
      exact refl machine.disk
  | some backend =>
      simp only [Converter.pdfToImage, Renderer.converter, isBackend]
      exact does.raster isWanted backend isBackend pdf options ⟨machine.disk, machine.fonts⟩

include trans

/-- After its data is built, a final render does to the disk what its backends do. -/
theorem rel_final (job : Job) (machine : Machine)
    (possible : withImage → renderer.capabilities.raster.isSome) :
    Rel (buildContext renderer.settings job .final machine).2.disk
      (renderer.final job withImage machine).2.disk := by
  have start : ¬ (withImage && renderer.capabilities.raster.isNone) = true := by
    cases withImage with
    | false => exact Bool.false_ne_true
    | true => simpa [Option.isSome_iff_ne_none] using possible rfl
  rw [Renderer.final, if_neg start]
  dsimp only
  rw [Action.run_bind]
  rcases buildContext renderer.settings job .final machine with ⟨fault | built, between⟩
  · exact refl between.disk
  dsimp only
  refine rel_bind Rel trans ?_ fun html between => ?_
  · exact refl between.disk
  refine rel_bind Rel trans (rel_toPdf refl does html between) fun pdf between => ?_
  split
  next isWanted =>
    refine rel_bind Rel trans ?_ fun _ later => refl later.disk
    exact rel_bind Rel trans (rel_pdfToImage refl does isWanted pdf _ between)
      fun _ later => refl later.disk
  next => exact refl between.disk

end Backends

/-- The backends of a final render leave a disk as they find it. -/
abbrev LeaveDisk (disk : Disk) : Capabilities → Bool → Prop :=
  BackendsDo fun before after => before = disk → after = disk

theorem disk_final {renderer : Renderer} {job : Job} {withImage : Bool} {machine : Machine}
    (leave : LeaveDisk (buildContext renderer.settings job .final machine).2.disk
      renderer.capabilities withImage)
    (possible : withImage → renderer.capabilities.raster.isSome) :
    (renderer.final job withImage machine).2.disk =
      (buildContext renderer.settings job .final machine).2.disk :=
  rel_final (fun _ same => same) (fun first second same => second (first same)) leave job machine
    possible rfl

/-- A final render that wants an image which nobody can make does nothing. -/
theorem final_of_no_raster {renderer : Renderer} {withImage : Bool} (job : Job)
    (machine : Machine) (impossible : ¬ (withImage → renderer.capabilities.raster.isSome)) :
    renderer.final job withImage machine = (.error Converter.noRaster, machine) := by
  have stopped : (withImage && renderer.capabilities.raster.isNone) = true := by
    simpa [Option.isNone_iff_eq_none] using impossible
  rw [Renderer.final, if_pos stopped]
  rfl

/-- A final render leaves the files of documents alone. -/
theorem spared_final {renderer : Renderer}
    (pdfSpares : renderer.capabilities.PdfSpares records images) (job : Job)
    (withImage : Bool)
    (rasterSpares : withImage → renderer.capabilities.RasterSpares records images)
    (machine : Machine) :
    Spared records images machine.disk (renderer.final job withImage machine).2.disk := by
  by_cases possible : withImage → renderer.capabilities.raster.isSome
  · exact (spared_buildContext _ _ _ _).trans
      (rel_final .refl .trans ⟨pdfSpares, rasterSpares⟩ job machine possible)
  · rw [final_of_no_raster job machine possible]
    exact .refl _

end Render

end CertPress
