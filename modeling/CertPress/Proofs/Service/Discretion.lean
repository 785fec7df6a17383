import CertPress.Proofs.Service.Download

/-!
# What failures of backends tell

A client learns that a render failed but not why.  Two sets of backends that differ only in
the reasons why they fail cannot be told apart by requests that render, neither by the answers
nor by what is left on the disk.
-/

namespace CertPress

/-! ## Actions that differ in their faults -/

section Actions

variable {Fault State Told α β : Type} {told : Fault → Told}

/-- From every state two actions leave the same state and give the same value, or faults of which
the same is told. -/
def ToldAlike (told : Fault → Told) (action other : ExceptT Fault (StateM State) α) : Prop :=
  ∀ state, (other state).2 = (action state).2 ∧
    (other state).1.mapError told = (action state).1.mapError told

namespace ToldAlike

theorem refl (action : ExceptT Fault (StateM State) α) : ToldAlike told action action :=
  fun _ => ⟨rfl, rfl⟩

/-- Two actions end alike from a state: both with one value, or both with faults. -/
theorem outcomes {action other : ExceptT Fault (StateM State) α}
    (alike : ToldAlike told action other) (state : State) :
    (∃ value after, action state = (.ok value, after) ∧ other state = (.ok value, after)) ∨
      ∃ fault differing after, action state = (.error fault, after) ∧
        other state = (.error differing, after) ∧ told differing = told fault := by
  obtain ⟨sameState, sameOutcome⟩ := alike state
  rcases one : action state with ⟨fault | value, after⟩
  · right
    rw [one] at sameState sameOutcome
    obtain ⟨differing, isFault, sameTold⟩ := Action.mapError_eq_error.mp sameOutcome
    exact ⟨fault, differing, after, rfl, Prod.ext isFault sameState, sameTold⟩
  · left
    rw [one] at sameState sameOutcome
    exact ⟨value, after, rfl, Prod.ext (Action.mapError_eq_ok.mp sameOutcome) sameState⟩

/-- What follows an action is only run after a value, so it is run alike. -/
theorem bind {action other : ExceptT Fault (StateM State) α}
    {next otherNext : α → ExceptT Fault (StateM State) β} (first : ToldAlike told action other)
    (second : ∀ value, ToldAlike told (next value) (otherNext value)) :
    ToldAlike told (action >>= next) (other >>= otherNext) := by
  intro state
  rw [Action.run_bind, Action.run_bind]
  rcases first.outcomes state with
    ⟨value, after, isValue, isSame⟩ | ⟨fault, differing, after, isFault, differs, sameTold⟩
  · rw [isValue, isSame]
    exact second value after
  · rw [isFault, differs]
    exact ⟨rfl, congrArg Except.error sameTold⟩

theorem map (change : α → β) {action other : ExceptT Fault (StateM State) α}
    (alike : ToldAlike told action other) : ToldAlike told (change <$> action) (change <$> other) :=
  alike.bind fun value => refl (pure (change value))

theorem ite (condition : Prop) [Decidable condition] {first second other differing :
    ExceptT Fault (StateM State) α} (whenTrue : ToldAlike told first other)
    (whenFalse : ToldAlike told second differing) :
    ToldAlike told (if condition then first else second)
      (if condition then other else differing) := by
  split
  · exact whenTrue
  · exact whenFalse

end ToldAlike

end Actions

/-! ## Backends -/

namespace Print

open Service (ApiFault)
open Settings (RasterOptions)

/-- Works of backends that differ at most in the reasons why they fail. -/
def SameButFaults {α : Type} (work other : BackendAction α) : Prop :=
  ToldAlike (fun _ => ()) work other

/-- Backends whose PDFs differ at most in the reasons why there is none. -/
def PdfBackend.SameButFaults (backend other : PdfBackend) : Prop :=
  ∀ html job, Print.SameButFaults (backend.render html job) (other.render html job)

/-- Backends whose images differ at most in the reasons why there is none. -/
def RasterBackend.SameButFaults (backend other : RasterBackend) : Prop :=
  ∀ pdf options, Print.SameButFaults (backend.rasterize pdf options) (other.rasterize pdf options)

/-- Backends in the same roles whose works differ at most in the reasons why they fail.  Their
names and versions may differ too. -/
structure Capabilities.SameButFaults (capabilities others : Capabilities) : Prop where
  rich : Option.Rel PdfBackend.SameButFaults capabilities.rich others.rich
  legacy : Option.Rel PdfBackend.SameButFaults capabilities.legacy others.legacy
  raster : Option.Rel RasterBackend.SameButFaults capabilities.raster others.raster

theorem Capabilities.SameButFaults.isNone_raster {capabilities others : Capabilities}
    (same : capabilities.SameButFaults others) :
    others.raster.isNone = capabilities.raster.isNone := by
  have sameRaster := same.raster
  generalize capabilities.raster = raster at sameRaster ⊢
  generalize others.raster = other at sameRaster ⊢
  cases sameRaster with
  | some sameWork => rfl
  | none => rfl

/-- Nothing is told of the fault of a backend. -/
theorem ofExport_renderFault (name : String) (fault : BackendFault) :
    ApiFault.ofExport (renderFault name fault) = .internal := by
  cases fault <;> rfl

theorem toldAlike_callBackend {α : Type} {work other : BackendAction α} (name otherName : String)
    (same : SameButFaults work other) :
    ToldAlike ApiFault.ofExport (callBackend name work) (callBackend otherName other) := by
  intro machine
  unfold callBackend
  rcases same.outcomes ⟨machine.disk, machine.fonts⟩ with
    ⟨value, bench, isValue, isSame⟩ | ⟨fault, differing, bench, isFault, differs, -⟩
  · rw [isValue, isSame]
    exact ⟨rfl, rfl⟩
  · rw [isFault, differs]
    refine ⟨rfl, congrArg Except.error ?_⟩
    rw [ofExport_renderFault, ofExport_renderFault]

/-- The converter with other backends. -/
def Converter.withBackends (converter : Converter) (others : Capabilities) : Converter :=
  { converter with capabilities := others }

variable {converter : Converter} {others : Capabilities}

theorem toldAlike_toPdf (same : converter.capabilities.SameButFaults others) (html : String) :
    ToldAlike ApiFault.ofExport (converter.toPdf html)
      ((converter.withBackends others).toPdf html) := by
  obtain ⟨⟨rich, legacy, raster⟩, stylesheet, baseUrl, pageSize, margin⟩ := converter
  obtain ⟨otherRich, otherLegacy, otherRaster⟩ := others
  obtain ⟨sameRich, sameLegacy, -⟩ := same
  cases sameRich with
  | some sameWork =>
      exact (ToldAlike.refl _).bind fun _ => toldAlike_callBackend _ _ (sameWork html _)
  | none =>
      cases sameLegacy with
      | some sameWork =>
          exact (ToldAlike.refl _).bind fun _ => toldAlike_callBackend _ _ (sameWork html _)
      | none => exact .refl _

theorem toldAlike_pdfToImage (same : converter.capabilities.SameButFaults others) (pdf : Bytes)
    (options : RasterOptions) :
    ToldAlike ApiFault.ofExport (converter.pdfToImage pdf options)
      ((converter.withBackends others).pdfToImage pdf options) := by
  obtain ⟨⟨rich, legacy, raster⟩, stylesheet, baseUrl, pageSize, margin⟩ := converter
  obtain ⟨otherRich, otherLegacy, otherRaster⟩ := others
  obtain ⟨-, -, sameRaster⟩ := same
  cases sameRaster with
  | some sameWork =>
      exact (ToldAlike.refl _).bind fun _ => toldAlike_callBackend _ _ (sameWork pdf options)
  | none => exact .refl _

end Print

/-! ## Renders -/

namespace Render

open Print (Capabilities)
open Service (ApiFault)

/-- The renderer with other backends. -/
def Renderer.withBackends (renderer : Renderer) (others : Capabilities) : Renderer :=
  { renderer with capabilities := others }

/-- A render for keeping is told alike whatever the reasons are why backends fail. -/
theorem toldAlike_final {renderer : Renderer} {others : Capabilities}
    (same : renderer.capabilities.SameButFaults others) (job : Job) (withImage : Bool) :
    ToldAlike ApiFault.ofExport (renderer.final job withImage)
      ((renderer.withBackends others).final job withImage) := by
  have converted (html : String) : ToldAlike ApiFault.ofExport (renderer.converter.toPdf html)
      ((renderer.withBackends others).converter.toPdf html) := Print.toldAlike_toPdf same html
  have drawn (pdf : Bytes) : ToldAlike ApiFault.ofExport
      (renderer.converter.pdfToImage pdf renderer.settings.raster)
      ((renderer.withBackends others).converter.pdfToImage pdf renderer.settings.raster) :=
    Print.toldAlike_pdfToImage same pdf _
  have noRaster : (renderer.withBackends others).capabilities.raster.isNone =
    renderer.capabilities.raster.isNone := same.isNone_raster
  unfold Renderer.final
  rw [noRaster]
  refine .ite _ (.refl _) (.bind (.refl _) fun built => .bind (.refl _) fun html => ?_)
  refine .bind (converted html) fun pdf => .ite _ ?_ (.refl _)
  exact .bind (.map _ (drawn pdf)) fun image => .refl _

end Render

/-! ## Requests -/

namespace Service

variable {workshop : Workshop} {others : Print.Capabilities} {moment later : Moment}

namespace Handler

variable {α β : Type} {action other : Print.RenderAction α}

/-- What does not look at the faults of a render is done alike. -/
theorem rendering_bind_congr {Told : Type} {told : ExportFault → Told}
    (alike : ToldAlike told action other) {next : Except ExportFault α → Handler β}
    (blind : ∀ fault differing, told differing = told fault →
      next (.error differing) = next (.error fault)) :
    rendering other >>= next = rendering action >>= next := by
  funext state
  rw [Action.run_bind, Action.run_bind]
  unfold rendering
  rcases alike.outcomes state.machine with
    ⟨value, machine, isValue, isSame⟩ | ⟨fault, differing, machine, isFault, differs, sameTold⟩
  · rw [isValue, isSame]
  · rw [isFault, differs]
    exact congrFun (blind fault differing sameTold) _

/-- What follows an outcome is only run after a value. -/
theorem lift_bind_congr {outcome : Except ApiFault α} {next differing : α → Handler β}
    (same : ∀ value, outcome = .ok value → next value = differing value) :
    (liftM outcome : Handler α) >>= next = (liftM outcome : Handler α) >>= differing := by
  cases outcome with
  | error fault => rfl
  | ok value => exact same value rfl

theorem rendered_congr (alike : ToldAlike ApiFault.ofExport action other) :
    rendered other = rendered action :=
  rendering_bind_congr alike fun _ _ sameTold => congrArg throw sameTold

end Handler

/-- The workshop with other backends. -/
def Workshop.withBackends (workshop : Workshop) (others : Print.Capabilities) : Workshop :=
  { workshop with renderer := workshop.renderer.withBackends others }

section Requests

variable (same : workshop.renderer.capabilities.SameButFaults others)
include same

theorem rendered_withBackends (job : Render.Job) (withImage : Bool) :
    Handler.rendered ((workshop.withBackends others).renderer.final job withImage) =
      Handler.rendered (workshop.renderer.final job withImage) :=
  Handler.rendered_congr (Render.toldAlike_final same job withImage)

omit same in
/-- A job depends on the time only. -/
theorem buildJob_withBackends (sameTime : later.now = moment.now) (input : CertificateRequest) :
    buildJob (workshop.withBackends others) later input = buildJob workshop moment input := by
  unfold buildJob factsOf
  rw [sameTime]
  rfl

theorem downloadPdf_withBackends (sameTime : later.now = moment.now) (input : CertificateRequest) :
    downloadPdf (workshop.withBackends others) later input = downloadPdf workshop moment input := by
  unfold downloadPdf
  rw [buildJob_withBackends sameTime]
  refine congrArg _ (funext fun job => ?_)
  rw [rendered_withBackends same]

theorem downloadImage_withBackends (sameTime : later.now = moment.now)
    (input : CertificateRequest) :
    downloadImage (workshop.withBackends others) later input =
      downloadImage workshop moment input := by
  unfold downloadImage
  rw [buildJob_withBackends sameTime]
  refine congrArg _ (funext fun job => ?_)
  rw [rendered_withBackends same]
  rfl

omit same in
/-- The record of a document that is named depends on the time only. -/
theorem createRecord_withBackends (sameTime : later.now = moment.now) {input : CertificateRequest}
    (isDocument : input.document.isSome) :
    createRecord (workshop.withBackends others) later input =
      createRecord workshop moment input := by
  obtain ⟨id, isId⟩ := Option.isSome_iff_exists.mp isDocument
  unfold createRecord factsOf
  rw [sameTime, isId]
  rfl

/-- A generation answers alike whatever the fault is that keeps it from attaching a PDF. -/
theorem generate_withBackends (sameTime : later.now = moment.now) {input : CertificateRequest}
    (isDocument : input.document.isSome) :
    generate (workshop.withBackends others) later input = generate workshop moment input := by
  unfold generate
  rw [createRecord_withBackends sameTime isDocument]
  refine congrArg _ (funext fun (document, job) => ?_)
  exact Handler.rendering_bind_congr (Render.toldAlike_final same job false) fun _ _ _ => rfl

end Requests

/-- The endpoints that convert what they render. -/
def converting : List (String × Endpoint) :=
  [("/certificates/pdf", .pdf), ("/certificates/image", .image),
   ("/certificates/generate", .generate)]

theorem mem_ownRoutes_of_converting {path : String} {endpoint : Endpoint}
    (converts : (path, endpoint) ∈ converting) : ⟨Route.literals path, endpoint⟩ ∈ ownRoutes := by
  simp only [converting, List.mem_cons, Prod.mk.injEq, List.not_mem_nil, or_false] at converts
  rcases converts with ⟨rfl, rfl⟩ | ⟨rfl, rfl⟩ | ⟨rfl, rfl⟩ <;> simp [ownRoutes]

section Endpoints

variable (same : workshop.renderer.capabilities.SameButFaults others)
variable (sameTime : later.now = moment.now) {path : String} {endpoint : Endpoint}
variable (converts : (path, endpoint) ∈ converting) {request : Request}
variable (carries : ∀ input, readJson CertificateRequest.decoder request = .ok input →
  input.document.isSome)
include same sameTime converts carries

theorem answerPost_withBackends :
    answerPost (workshop.withBackends others) later endpoint [] request =
      answerPost workshop moment endpoint [] request := by
  simp only [converting, List.mem_cons, Prod.mk.injEq, List.not_mem_nil, or_false] at converts
  rcases converts with ⟨-, rfl⟩ | ⟨-, rfl⟩ | ⟨-, rfl⟩
  · exact Handler.lift_bind_congr fun input _ => downloadPdf_withBackends same sameTime input
  · exact Handler.lift_bind_congr fun input _ => downloadImage_withBackends same sameTime input
  · exact Handler.lift_bind_congr fun input isRead =>
      generate_withBackends same sameTime (carries input isRead)

/-- What an endpoint that converts does with a request depends on the time and on what the
backends make, not on the reasons why they fail. -/
theorem answerAt_withBackends :
    answerAt (workshop.withBackends others) later endpoint [] request =
      answerAt workshop moment endpoint [] request := by
  have posted := answerPost_withBackends same sameTime converts carries
  have got : answerGet (workshop.withBackends others) endpoint [] =
      answerGet workshop endpoint [] := by
    simp only [converting, List.mem_cons, Prod.mk.injEq, List.not_mem_nil, or_false] at converts
    rcases converts with ⟨-, rfl⟩ | ⟨-, rfl⟩ | ⟨-, rfl⟩ <;> rfl
  unfold answerAt
  rw [posted, got]

end Endpoints

/-- Whatever the reasons are why backends fail, a request that converts is answered alike and
leaves the same behind. -/
theorem handle_withBackends {table : List (Route Endpoint)}
    (routes : table? workshop.renderer.settings = some table)
    (same : workshop.renderer.capabilities.SameButFaults others)
    (sameTime : later.now = moment.now) {path : String} {endpoint : Endpoint}
    (converts : (path, endpoint) ∈ converting) {request : Request}
    (isPath : request.path = path.toList)
    (carries : ∀ input, readJson CertificateRequest.decoder request = .ok input →
      input.document.isSome) (state : ServiceState) :
    handle (workshop.withBackends others) table later request state =
      handle workshop table moment request state := by
  unfold handle
  rw [isPath, find?_own routes (mem_ownRoutes_of_converting converts)]
  dsimp only
  rw [answerAt_withBackends same sameTime converts carries]

/-! ## A run -/

/-- Backends that make nothing of a document that is not empty, and no image. -/
def failingWith (fault : Print.BackendFault) : Print.Capabilities where
  rich := some ⟨"rich", none, fun html _ bench =>
    (if html = "" then .ok [] else .error fault, bench)⟩
  legacy := none
  raster := some ⟨"raster", none, fun _ _ bench => (.error fault, bench)⟩

theorem same_failingWith (fault other : Print.BackendFault) :
    (failingWith fault).SameButFaults (failingWith other) := by
  refine ⟨.some fun html job bench => ⟨rfl, ?_⟩, .none, .some fun pdf options bench => ⟨rfl, rfl⟩⟩
  by_cases empty : html = ""
  · simp only [empty, if_true]
  · simp only [empty, if_false]
    rfl

/-- The workshop with backends that fail. -/
def failingWorkshop (fault : Print.BackendFault) : Workshop :=
  (echoWorkshop "/u").withBackends (failingWith fault)

/-- The fault of an outcome, nothing if it is an answer. -/
def fault? : Except ApiFault Response → Option ApiFault
  | .error fault => some fault
  | .ok _ => none

theorem fault?_eq_some_iff {outcome : Except ApiFault Response} {fault : ApiFault} :
    fault? outcome = some fault ↔ outcome = .error fault := by
  cases outcome <;> simp [fault?]

/-- A download that fails is answered alike for a program that exits with a text of its own and
for one that crashes. -/
theorem handle_withBackends_failing :
    ∃ table, table? (failingWorkshop .crashed).renderer.settings = some table ∧
      (handle (failingWorkshop .crashed) table default
        (submit "/certificates/pdf" (photoRequest "a.png").toValue) echoState).1.status = 500 ∧
      handle ((failingWorkshop .crashed).withBackends (failingWith (.exited (some 1) "/u/a.png")))
          table ⟨(default : Moment).now, ⟨1⟩⟩
          (submit "/certificates/pdf" (photoRequest "a.png").toValue) echoState =
        handle (failingWorkshop .crashed) table default
          (submit "/certificates/pdf" (photoRequest "a.png").toValue) echoState := by
  obtain ⟨table, routes⟩ :
      ∃ table, table? (failingWorkshop .crashed).renderer.settings = some table :=
    Option.isSome_iff_exists.mp (by decide +kernel)
  have isRead := readJson_submit "/certificates/pdf" (exact_photoRequest "a.png")
  refine ⟨table, routes, ?_, ?_⟩
  · have failed : fault? (downloadPdf (failingWorkshop .crashed) default (photoRequest "a.png")
        echoState).1 = some .internal := by decide +kernel
    rw [handle_pdf routes rfl (path_pdf _), isRead]
    dsimp only
    rcases downloads : downloadPdf (failingWorkshop .crashed) default (photoRequest "a.png")
      echoState with ⟨outcome, after⟩
    rw [downloads] at failed
    obtain rfl := fault?_eq_some_iff.mp failed
    rfl
  · have sameTime : (⟨(default : Moment).now, ⟨1⟩⟩ : Moment).now = (default : Moment).now := rfl
    refine handle_withBackends routes (same_failingWith .crashed (.exited (some 1) "/u/a.png"))
      sameTime (.head _) (path_pdf _) ?_ echoState
    intro input isInput
    cases isRead.symm.trans isInput
    rfl

end Service

end CertPress
