import CertPress.Proofs.Action
import CertPress.Proofs.Render.Payload
import Mathlib.Data.List.Basic

/-!
# Images that a render stores

A final render stores the embedded image of a field under a key that comes from the
owner, the field and the bytes.  Each field of the category has its turn once, so
no two images that a render stores belong to one field, and each comes from the
value that the field had before the render.
-/

namespace CertPress

open Json (Value Object)
open Record (Category RenderMode)
open Asset (Payload Progress Reference Resolver StoredImage Warning)

namespace Store

/-- An image is stored under a key that its bytes determine. -/
theorem saveImage_eq_ok {root : FilePath} {content : Bytes} {document : Uuid}
    {kind extension path : String} {disk after : Disk}
    (saved : saveImage root content document kind extension disk = (.ok path, after)) :
    path = Record.Key.asset document kind (shortDigest content) extension := by
  unfold saveImage at saved
  obtain ⟨current, state, -, rest⟩ := Action.bind_eq_ok.mp saved
  split at rest
  next => exact (Action.pure_eq_ok.mp rest).1.symm
  next =>
    obtain ⟨_, _, -, last⟩ := Action.bind_eq_ok.mp rest
    exact (Action.pure_eq_ok.mp last).1.symm

end Store

namespace Asset

/-! ## One reference -/

/-- The image that a reference holds, which a final render stores. -/
def payload? (mode : RenderMode) (reference : String) : Option Payload :=
  if Text.blank reference then none
  else match Reference.classify reference, mode with
    | .embedded address, .final => Payload.ofUrl? address
    | _, _ => none

/-- What resolving a reference for a field does to the disk and to the images that
are stored. -/
inductive Resolved (resolver : Resolver) (field reference : String) (before after : Progress) :
    Prop where
  /-- There is no image to store. -/
  | kept : payload? resolver.mode reference = none → after.disk = before.disk →
      after.stored = before.stored → Resolved resolver field reference before after
  /-- The image is stored. -/
  | saved {payload : Payload} {path : String} {disk : Disk} :
      payload? resolver.mode reference = some payload →
      Store.saveImage resolver.storeRoot payload.content resolver.owner field payload.extension
        before.disk = (.ok path, disk) →
      after.disk = disk → after.stored = before.stored ++ [⟨field, path⟩] →
      Resolved resolver field reference before after
  /-- The image could not be stored. -/
  | failed {payload : Payload} {fault : StoreFault} {disk : Disk} :
      payload? resolver.mode reference = some payload →
      Store.saveImage resolver.storeRoot payload.content resolver.owner field payload.extension
        before.disk = (.error fault, disk) →
      after.disk = disk → after.stored = before.stored →
        Resolved resolver field reference before after

section Frame

variable (resolver : Resolver) (field path : String) (progress : Progress)

theorem warn_frame (reference reason : String) :
    (progress.warn field reference reason).disk = progress.disk ∧
      (progress.warn field reference reason).stored = progress.stored := ⟨rfl, rfl⟩

theorem resolveStored_frame :
    (resolver.resolveStored field path progress).2.disk = progress.disk ∧
      (resolver.resolveStored field path progress).2.stored = progress.stored := by
  unfold Resolver.resolveStored
  dsimp only
  split
  next => split <;> simp only [warn_frame, and_self]
  next =>
    split
    next => split <;> simp only [warn_frame, and_self]
    next => split <;> simp only [warn_frame, and_self]

theorem localize_frame (address : String) :
    (resolver.localize field address progress).2.disk = progress.disk ∧
      (resolver.localize field address progress).2.stored = progress.stored := by
  unfold Resolver.localize
  split
  next => exact ⟨rfl, rfl⟩
  next =>
    split
    next => exact ⟨rfl, rfl⟩
    next =>
      split
      next => exact resolveStored_frame _ _ _ _
      next => exact ⟨rfl, rfl⟩

end Frame

theorem payload?_of_blank (mode : RenderMode) {reference : String}
    (blank : Text.blank reference) : payload? mode reference = none := by
  unfold payload?
  rw [if_pos blank]

theorem payload?_of_shown (mode : RenderMode) {reference : String}
    (shown : ¬ Text.blank reference) :
    payload? mode reference = match Reference.classify reference, mode with
      | .embedded address, .final => Payload.ofUrl? address
      | _, _ => none := by
  unfold payload?
  rw [if_neg shown]

theorem ofUrl?_of_payload? {mode : RenderMode} {reference address : String} {payload : Payload}
    (isPayload : payload? mode reference = some payload)
    (embedded : Reference.classify reference = .embedded address) :
    Payload.ofUrl? address = some payload := by
  unfold payload? at isPayload
  split at isPayload
  next => cases isPayload
  next =>
    rw [embedded] at isPayload
    cases mode with
    | preview => cases isPayload
    | final => exact isPayload

/-- Resolving a reference does nothing else. -/
theorem resolved_resolve (resolver : Resolver) (field reference : String) (progress : Progress) :
    Resolved resolver field reference progress (resolver.resolve field reference progress).2 := by
  unfold Resolver.resolve
  split
  next blank =>
    refine .kept (payload?_of_blank _ blank) ?_ ?_
    · rfl
    · rfl
  next shown =>
    have isPayload := payload?_of_shown resolver.mode shown
    split
    next path classified =>
      rw [classified] at isPayload
      obtain ⟨disk, stored⟩ := resolveStored_frame resolver field path progress
      exact .kept isPayload disk stored
    next address classified mode =>
      replace isPayload : payload? resolver.mode reference = Payload.ofUrl? address :=
        isPayload.trans (by simp only [classified, mode])
      unfold Resolver.resolveEmbedded
      split
      next noPayload =>
        refine .kept (isPayload.trans noPayload) ?_ ?_
        · rfl
        · rfl
      next payload found =>
        split
        next path disk saved =>
          obtain ⟨sameDisk, sameStored⟩ :=
            resolveStored_frame resolver field path { progress with disk }
          refine .saved (isPayload.trans found) saved ?_ ?_
          · exact sameDisk
          · dsimp only
            rw [sameStored]
        next fault disk failed =>
          refine .failed (isPayload.trans found) failed ?_ ?_
          · rfl
          · rfl
    next address classified mode =>
      rw [classified] at isPayload
      obtain ⟨disk, stored⟩ := localize_frame resolver field progress address
      exact .kept isPayload disk stored
    next address classified mode =>
      rw [classified] at isPayload
      refine .kept isPayload ?_ ?_
      · rfl
      · rfl
    next mode _ =>
      refine .kept ?_ ?_ ?_
      · rw [isPayload, mode]
        split
        next isFinal => cases isFinal
        next => rfl
      · rfl
      · rfl

theorem disk_resolve (resolver : Resolver) (field reference : String) (progress : Progress) :
    (resolver.resolve field reference progress).2.disk =
      match payload? resolver.mode reference with
      | none => progress.disk
      | some payload =>
          (Store.saveImage resolver.storeRoot payload.content resolver.owner field
            payload.extension progress.disk).2 := by
  cases resolved_resolve resolver field reference progress with
  | kept none same => rw [none, same]
  | saved isPayload saved same => simp only [isPayload, saved, same]
  | failed isPayload failed same => simp only [isPayload, failed, same]

theorem stored_resolve (resolver : Resolver) (field reference : String) (progress : Progress) :
    (resolver.resolve field reference progress).2.stored = progress.stored ++
      match payload? resolver.mode reference with
      | none => []
      | some payload =>
          ((Store.saveImage resolver.storeRoot payload.content resolver.owner field
            payload.extension progress.disk).1.toOption.map (StoredImage.mk field)).toList := by
  cases resolved_resolve resolver field reference progress with
  | kept none _ same => simp only [none, same, List.append_nil]
  | saved isPayload saved _ more => simp only [isPayload, saved, more]; rfl
  | failed isPayload failed _ same =>
      simp only [isPayload, failed, same]
      exact (List.append_nil _).symm

end Asset

namespace Render

/-! ## All references of a render -/

/-- The reference that data has in a field; empty where it has none. -/
def referenceIn (data : Object) (field : String) : String :=
  ((data.get? field).bind Value.string?).getD ""

/-- Resolve the references that data has in fields, one after another. -/
def resolveAll (resolver : Resolver) (data : Object) (fields : List String)
    (progress : Progress) : Progress :=
  fields.foldl (fun progress field =>
    (resolver.resolve field (referenceIn data field) progress).2) progress

theorem resolveAll_cons (resolver : Resolver) (data : Object) (field : String)
    (rest : List String) (progress : Progress) :
    resolveAll resolver data (field :: rest) progress = resolveAll resolver data rest
      (resolver.resolve field (referenceIn data field) progress).2 :=
  rfl

theorem resolveField_eq (resolver : Resolver) (context : Object) (progress : Progress)
    (field : String) :
    ∃ address, resolveField resolver (context, progress) field =
      (context.insert field (.string address),
        (resolver.resolve field (referenceIn context field) progress).2) := by
  unfold resolveField
  dsimp only
  split
  next blank =>
    refine ⟨_, congrArg (_, ·) ?_⟩
    rw [referenceIn, Resolver.resolve, if_pos blank]
  next => exact ⟨_, rfl⟩

/-- A field has its turn with the reference that the data had for it at first. -/
theorem resolveFields_eq (resolver : Resolver) {fields : List String}
    (distinct : fields.Nodup) (context : Object) (progress : Progress) :
    (fields.foldl (resolveField resolver) (context, progress)).2 =
      resolveAll resolver context fields progress := by
  induction fields generalizing context progress with
  | nil => rfl
  | cons field rest hypothesis =>
      obtain ⟨notLater, restDistinct⟩ := List.nodup_cons.mp distinct
      obtain ⟨address, step⟩ := resolveField_eq resolver context progress field
      rw [List.foldl_cons, step, hypothesis restDistinct, resolveAll, resolveAll, List.foldl_cons]
      refine List.foldl_ext _ _ _ fun next other inRest => ?_
      have differ : field ≠ other := fun same => notLater (same ▸ inRest)
      rw [referenceIn, Mapping.get?_insert, if_neg differ, referenceIn]

/-- What storing the images keeps, a render keeps. -/
theorem kept_resolveAll (holds : Disk → Prop) {resolver : Resolver} {data : Object}
    {fields : List String} (saves : ∀ field ∈ fields, ∀ payload,
      Asset.payload? resolver.mode (referenceIn data field) = some payload →
      ∀ disk, holds disk → holds (Store.saveImage resolver.storeRoot payload.content
        resolver.owner field payload.extension disk).2)
    {progress : Progress} (atFirst : holds progress.disk) :
    holds (resolveAll resolver data fields progress).disk := by
  induction fields generalizing progress with
  | nil => exact atFirst
  | cons field rest hypothesis =>
      rw [resolveAll_cons]
      refine hypothesis (fun other member => saves other (.tail _ member)) ?_
      rw [Asset.disk_resolve]
      split
      next => exact atFirst
      next payload isPayload => exact saves field (.head _) payload isPayload _ atFirst

/-- The images that are stored belong to different fields, in order, and each comes
from the reference that the data has in its field. -/
theorem stored_resolveAll (resolver : Resolver) (data : Object) (fields : List String)
    (progress : Progress) :
    ∃ added, (resolveAll resolver data fields progress).stored = progress.stored ++ added ∧
      (added.map StoredImage.field).Sublist fields ∧
      ∀ image ∈ added, ∃ payload,
        Asset.payload? resolver.mode (referenceIn data image.field) = some payload ∧
        image.path = Record.Key.asset resolver.owner image.field
          (Store.shortDigest payload.content) payload.extension := by
  induction fields generalizing progress with
  | nil => exact ⟨[], by simp [resolveAll], .slnil, by simp⟩
  | cons field rest hypothesis =>
      obtain ⟨added, stored, sublist, come⟩ :=
        hypothesis (resolver.resolve field (referenceIn data field) progress).2
      rw [resolveAll_cons, stored]
      cases Asset.resolved_resolve resolver field (referenceIn data field) progress with
      | kept _ _ same => exact ⟨added, by rw [same], sublist.cons field, come⟩
      | failed _ _ _ same => exact ⟨added, by rw [same], sublist.cons field, come⟩
      | @saved payload path _ isPayload saved _ more =>
          refine ⟨⟨field, path⟩ :: added, by rw [more]; simp, sublist.cons_cons field, ?_⟩
          intro image member
          rcases List.mem_cons.mp member with rfl | inAdded
          · exact ⟨payload, isPayload, Store.saveImage_eq_ok saved⟩
          · exact come image inAdded

theorem nodup_assetFields (category : Category) : category.assetFields.Nodup := by
  cases category <;> decide

/-- The images are resolved from the normalized data of the job. -/
theorem buildFrom_progress (settings : Settings.RenderSettings) (job : Job) (mode : RenderMode)
    (disk : Disk) :
    (buildFrom settings job mode disk).2 = resolveAll ⟨settings, mode, job.owner⟩
      (Context.normalize job.template.category job.data job.facts)
      job.template.category.assetFields (.start disk) := by
  rw [← resolveFields_eq _ (nodup_assetFields job.template.category), buildFrom]

/-- The data of a job comes with the source of its template, and building it leaves behind
what resolving the images leaves behind. -/
theorem buildContext_eq_ok {settings : Settings.RenderSettings} {job : Job} {mode : RenderMode}
    {machine after : Print.Machine} {built : BuiltContext}
    (isBuilt : buildContext settings job mode machine = (.ok built, after)) :
    source? job.template = .ok built.source ∧
      built.context = (buildFrom settings job mode machine.disk).1 ∧
      built.stored = (buildFrom settings job mode machine.disk).2.stored ∧
      after = { machine with disk := (buildFrom settings job mode machine.disk).2.disk } := by
  unfold buildContext at isBuilt
  split at isBuilt
  next => cases isBuilt
  next source renderable =>
    cases isBuilt
    exact ⟨renderable, rfl, rfl, rfl⟩

/-- A final render builds the data, fills it in and converts the result. -/
theorem final_eq_ok {renderer : Renderer} {job : Job} {withImage : Bool}
    {machine after : Print.Machine} {final : Final}
    (rendered : renderer.final job withImage machine = (.ok final, after)) :
    ∃ built html between converted,
      buildContext renderer.settings job .final machine = (.ok built, between) ∧
      fill built = .ok html ∧
      renderer.converter.toPdf html between = (.ok final.pdf, converted) ∧
      final.stored = built.stored := by
  unfold Renderer.final at rendered
  split at rendered
  next =>
    obtain ⟨_, _, thrown, -⟩ := Action.bind_eq_ok.mp rendered
    cases thrown
  next =>
    obtain ⟨built, between, isBuilt, rest⟩ := Action.bind_eq_ok.mp rendered
    obtain ⟨html, _, filled, rest⟩ := Action.bind_eq_ok.mp rest
    obtain ⟨isHtml, rfl⟩ := Action.lift_eq_ok.mp filled
    obtain ⟨pdf, converted, isPdf, rest⟩ := Action.bind_eq_ok.mp rest
    dsimp only at rest
    split at rest
    next =>
      obtain ⟨_, _, -, last⟩ := Action.bind_eq_ok.mp rest
      obtain ⟨rfl, -⟩ := Action.pure_eq_ok.mp last
      exact ⟨built, html, between, converted, isBuilt, isHtml, isPdf, rfl⟩
    next =>
      obtain ⟨_, _, -, last⟩ := Action.bind_eq_ok.mp rest
      obtain ⟨rfl, -⟩ := Action.pure_eq_ok.mp last
      exact ⟨built, html, between, converted, isBuilt, isHtml, isPdf, rfl⟩

/-- A final render stores at most one image for each field of the category, each
from the normalized data. -/
theorem stored_final {renderer : Renderer} {job : Job} {withImage : Bool}
    {machine after : Print.Machine} {final : Final}
    (rendered : renderer.final job withImage machine = (.ok final, after)) :
    (final.stored.map StoredImage.field).Sublist job.template.category.assetFields ∧
      ∀ image ∈ final.stored, ∃ payload,
        Asset.payload? .final (referenceIn (Context.normalize job.template.category job.data
          job.facts) image.field) = some payload ∧
        image.path = Record.Key.asset job.owner image.field
          (Store.shortDigest payload.content) payload.extension := by
  obtain ⟨built, html, between, converted, isBuilt, -, -, same⟩ := final_eq_ok rendered
  obtain ⟨added, stored, sublist, come⟩ := stored_resolveAll ⟨renderer.settings, .final, job.owner⟩
    (Context.normalize job.template.category job.data job.facts) job.template.category.assetFields
    (.start machine.disk)
  have built_eq : built.stored = added := by
    rw [(buildContext_eq_ok isBuilt).2.2.1, buildFrom_progress, stored]
    rfl
  rw [same, built_eq]
  exact ⟨sublist, come⟩

end Render

end CertPress
