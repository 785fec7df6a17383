import CertPress.Proofs.Render.Frame
import CertPress.Proofs.Render.Outcome
import CertPress.Proofs.Store.Open

/-!
# Images that are sure to be stored

Every embedded image of a final render is stored if the directory of images is there or
can be made.  Nothing that a render does takes that directory away.
-/

namespace CertPress.Render

open Json (Object)
open Record (Category)
open Asset (Payload Progress Resolver)

variable {resolver : Resolver} {data : Object} {category : Category} {fields : List String}

section Open

variable (roomy : Store.Roomy resolver.storeRoot)
include roomy

/-- Storing an image keeps its directory. -/
theorem open_resolveAll {progress : Progress}
    (opened : progress.disk.Open (resolver.storeRoot.join "certificates"))
    (known : ∀ field ∈ fields, field ∈ category.assetFields) :
    (resolveAll resolver data fields progress).disk.Open
      (resolver.storeRoot.join "certificates") := by
  refine kept_resolveAll (Disk.Open · _) (fun field member payload _ disk isOpen => ?_) opened
  obtain ⟨after, stored, stays⟩ :=
    Store.saveImage_of_open (known field member) payload resolver.owner roomy isOpen
  rwa [stored]

/-- Every image is stored. -/
theorem exists_stored_resolveAll {progress : Progress} {field : String} {payload : Payload}
    (opened : progress.disk.Open (resolver.storeRoot.join "certificates"))
    (known : ∀ field ∈ fields, field ∈ category.assetFields) (member : field ∈ fields)
    (isPayload : Asset.payload? resolver.mode (referenceIn data field) = some payload) :
    ∃ image ∈ (resolveAll resolver data fields progress).stored, image.field = field := by
  induction fields generalizing progress with
  | nil => exact absurd member List.not_mem_nil
  | cons first rest hypothesis =>
      rw [resolveAll_cons]
      rcases List.mem_cons.mp member with rfl | inRest
      · obtain ⟨added, more, -⟩ := stored_resolveAll resolver data rest
          (resolver.resolve field (referenceIn data field) progress).2
        cases Asset.resolved_resolve resolver field (referenceIn data field) progress with
        | kept noPayload => exact absurd isPayload (by simp [noPayload])
        | @saved _ path _ _ _ _ stored => exact ⟨⟨field, path⟩, by simp [more, stored], rfl⟩
        | @failed other fault disk _ failed =>
            obtain ⟨after, saved, -⟩ := Store.saveImage_of_open (known field (.head _)) other
              resolver.owner roomy opened
            rw [failed] at saved
            cases saved
      · have stays : (resolveAll resolver data [first] progress).disk.Open
            (resolver.storeRoot.join "certificates") :=
          open_resolveAll roomy opened (List.forall_mem_singleton.mpr (known first (.head _)))
        exact hypothesis stays (fun other inOthers => known other (.tail _ inOthers)) inRest

end Open

/-- A render makes no directory but that of images and those above. -/
theorem within_resolveAll {progress : Progress} {limit : Nat}
    (within : progress.disk.Within limit)
    (noUp : ".." ∉ Disk.route (resolver.storeRoot.join "certificates"))
    (bound : (progress.disk.place (resolver.storeRoot.join "certificates")).key.toList.length ≤ limit)
    (known : ∀ field ∈ fields, field ∈ category.assetFields) :
    (resolveAll resolver data fields progress).disk.Within limit := by
  let holds (disk : Disk) : Prop :=
    disk.Within limit ∧ ∀ path, disk.place path = progress.disk.place path
  have kept : holds (resolveAll resolver data fields progress).disk := by
    refine kept_resolveAll holds (fun field member payload _ disk held => ?_) ⟨within, fun _ => rfl⟩
    have keeps := Store.keeps_saveImage resolver.storeRoot payload.content resolver.owner field
      payload.extension disk
    refine ⟨?_, fun path => (keeps.place path).trans (held.2 path)⟩
    exact Store.within_saveImage (known field member) payload resolver.owner held.1 noUp
      (held.2 _ ▸ bound)
  exact kept.1

/-! ## Renders that succeed -/

/-- A template with a source is not blank, so it can be filled in. -/
theorem exists_filled {template : Record.Template} {source : String}
    (renderable : source? template = .ok source) (scope : Json.Value) :
    ∃ html, Markup.render source scope = .ok html := by
  have shown : Text.blank source = false := by
    unfold source? at renderable
    split at renderable
    next isSource =>
      cases renderable
      simpa using (Option.filter_eq_some_iff.mp isSource).2
    next => cases renderable
    next => cases renderable
  rw [Markup.render, Markup.parse, shown]
  exact ⟨_, rfl⟩

/-- A final render succeeds if its template has a source and its backend makes every
document a PDF. -/
theorem exists_final {renderer : Renderer} {job : Job} {source : String}
    {backend : Print.PdfBackend} (renderable : source? job.template = .ok source)
    (isBackend : renderer.capabilities.pdfBackend? = some backend)
    (prints : ∀ html pdfJob bench, ∃ pdf, backend.render html pdfJob bench = (.ok pdf, bench))
    (machine : Print.Machine) :
    ∃ final after, renderer.final job false machine = (.ok final, after) ∧
      after.disk = (resolveAll ⟨renderer.settings, .final, job.owner⟩
        (Context.normalize job.template.category job.data job.facts)
        job.template.category.assetFields (.start machine.disk)).disk ∧
      final.stored = (resolveAll ⟨renderer.settings, .final, job.owner⟩
        (Context.normalize job.template.category job.data job.facts)
        job.template.category.assetFields (.start machine.disk)).stored := by
  rcases rendered : renderer.final job false machine with ⟨fault | final, after⟩
  · cases fails_of_final rendered with
    | noSource none => cases none.symm.trans renderable
    | @notFilled built _ _ isBuilt unfilled =>
        obtain ⟨isSource, -⟩ := buildContext_eq_ok isBuilt
        obtain ⟨html, filled⟩ := exists_filled isSource (.ofObject built.context)
        rw [fill, filled] at unfilled
        cases unfilled
    | noBackend none => cases none.symm.trans isBackend
    | backend failed =>
        obtain ⟨_, between, html, other, _, -, -, otherBackend, failed⟩ := failed
        cases otherBackend.symm.trans isBackend
        obtain ⟨pdf, printed⟩ := prints html renderer.converter.job ⟨between.disk, between.fonts⟩
        cases failed.symm.trans printed
  · obtain ⟨built, html, between, converted, isBuilt, -, -, stored⟩ := final_eq_ok rendered
    obtain ⟨-, -, isStored, isBetween⟩ := buildContext_eq_ok isBuilt
    have leave : LeaveDisk (buildContext renderer.settings job .final machine).2.disk
        renderer.capabilities false := by
      refine ⟨fun other otherBackend html pdfJob bench same => ?_, nofun⟩
      cases otherBackend.symm.trans isBackend
      obtain ⟨pdf, printed⟩ := prints html pdfJob bench
      rwa [printed]
    have unchanged := disk_final leave fun wanted => by cases wanted
    rw [rendered, isBuilt] at unchanged
    refine ⟨final, after, rfl, ?_, ?_⟩
    · rw [← buildFrom_progress, unchanged, isBetween]
    · rw [← buildFrom_progress, stored, isStored]

end CertPress.Render
