import CertPress.Proofs.Service.Phases

/-!
# What a request leaves alone

No request but one for a generation changes a file of a document, and a generation
changes only those of its own document.
-/

namespace CertPress.Service

open Store (Spared)

/-- Whatever its outcome, the work on a request leaves the files of documents alone. -/
def Handler.Spares {α : Type} (handler : Handler α) (records images : FilePath) : Prop :=
  ∀ state : ServiceState,
    Spared records images state.machine.disk (handler state).2.machine.disk

namespace Handler.Spares

variable {α β : Type} {records images : FilePath}

theorem bind {handler : Handler α} {next : α → Handler β} (first : handler.Spares records images)
    (second : ∀ value, (next value).Spares records images) :
    (handler >>= next).Spares records images := fun state =>
  Action.rel_bind
    (fun before after : ServiceState =>
      Spared records images before.machine.disk after.machine.disk)
    Spared.trans (first state) fun value between _ => second value between

theorem pure (value : α) : (Pure.pure value : Handler α).Spares records images := fun _ => .refl _

theorem throw (fault : ApiFault) : (MonadExcept.throw fault : Handler α).Spares records images :=
  fun _ => .refl _

theorem lift (outcome : Except ApiFault α) :
    (liftM outcome : Handler α).Spares records images := fun _ => .refl _

theorem map (change : α → β) {handler : Handler α} (spares : handler.Spares records images) :
    (change <$> handler).Spares records images := spares.bind fun value => pure (change value)

theorem cached (ask : Render.TemplateCache → Disk → Except ExportFault α × Render.TemplateCache) :
    (Handler.cached ask).Spares records images := fun _ => .refl _

theorem reading (read : Disk → Except ApiFault α) :
    (Handler.reading read).Spares records images := fun _ => .refl _

theorem changeCache (change : Render.TemplateCache → Render.TemplateCache) :
    (Service.changeCache change).Spares records images := fun _ => .refl _

/-- A render leaves alone what its action does. -/
theorem rendered {action : Print.RenderAction α}
    (spares : ∀ machine, Spared records images machine.disk (action machine).2.disk) :
    (Handler.rendered action).Spares records images := by
  refine bind (fun state => spares state.machine) ?_
  rintro (fault | value)
  · exact throw _
  · exact pure value

end Handler.Spares

variable {workshop : Workshop} {moment : Moment}

theorem spares_buildJob (request : CertificateRequest) :
    (buildJob workshop moment request).Spares workshop.records workshop.images :=
  .bind (.cached _) fun _ => .bind (.reading _) fun _ => .pure _

theorem spares_previewPage (request : CertificateRequest) :
    (previewPage workshop moment request).Spares workshop.records workshop.images :=
  .bind (spares_buildJob request) fun job =>
    .bind (.rendered (Render.spared_preview workshop.renderer job)) fun _ => .pure _

theorem spares_answerGet (endpoint : Endpoint) (captures : List (List Char)) :
    (answerGet workshop endpoint captures).Spares workshop.records workshop.images := by
  cases endpoint with
  | health => exact .pure _
  | backends => exact .pure _
  | templates => exact .bind (.cached _) fun _ => .pure _
  | template => exact .bind (.lift _) fun _ => .bind (.cached _) fun _ => .pure _
  | dropTemplates => exact .throw _
  | dropTemplate => exact .throw _
  | preview => exact .throw _
  | pdf => exact .throw _
  | image => exact .throw _
  | generate => exact .throw _
  | files mount directory => exact .throw _

/-- A path with an endpoint is answered there. -/
theorem snd_handle {table : List (Route Endpoint)} {request : Request} {endpoint : Endpoint}
    {captures : List (List Char)} (asks : request.method ≠ "OPTIONS")
    (found : Route.find? table request.path = some (endpoint, captures)) (state : ServiceState) :
    (handle workshop table moment request state).2 =
      (answerAt workshop moment endpoint captures request state).2 := by
  unfold handle
  rw [if_neg asks, found]
  dsimp only
  rcases answerAt workshop moment endpoint captures request state with ⟨fault | response, after⟩
  · rfl
  · rfl

theorem snd_handle_of_no_route {table : List (Route Endpoint)} {request : Request}
    (none : request.method = "OPTIONS" ∨ Route.find? table request.path = .none)
    (state : ServiceState) : (handle workshop table moment request state).2 = state := by
  unfold handle
  split
  next => rfl
  next asks =>
    rw [none.resolve_left asks]

section Backends

variable (pdfSpares : workshop.renderer.capabilities.PdfSpares workshop.records workshop.images)

include pdfSpares

theorem spares_downloadPdf (request : CertificateRequest) :
    (downloadPdf workshop moment request).Spares workshop.records workshop.images :=
  .bind (spares_buildJob request) fun job =>
    .bind (.rendered (Render.spared_final pdfSpares job false fun wanted => by cases wanted))
      fun _ => .pure _

variable (rasterSpares :
  workshop.renderer.capabilities.RasterSpares workshop.records workshop.images)

include rasterSpares

theorem spares_downloadImage (request : CertificateRequest) :
    (downloadImage workshop moment request).Spares workshop.records workshop.images := by
  refine .bind (spares_buildJob request) fun job => ?_
  refine .bind (.rendered (Render.spared_final pdfSpares job true fun _ => rasterSpares)) ?_
  intro final
  cases final.image with
  | some image => exact .pure _
  | none => exact .throw _

/-- Of all submissions only one for a generation may change a file of a document. -/
theorem spares_answerPost {endpoint : Endpoint} (other : endpoint ≠ .generate)
    (captures : List (List Char)) (request : Request) :
    (answerPost workshop moment endpoint captures request).Spares workshop.records
      workshop.images := by
  cases endpoint with
  | dropTemplates => exact .bind (.changeCache _) fun _ => .pure _
  | dropTemplate => exact .bind (.lift _) fun _ => .bind (.changeCache _) fun _ => .pure _
  | preview => exact .bind (.lift _) fun input => spares_previewPage input
  | pdf => exact .bind (.lift _) fun input => spares_downloadPdf pdfSpares input
  | image => exact .bind (.lift _) fun input => spares_downloadImage pdfSpares rasterSpares input
  | generate => exact absurd rfl other
  | health => exact .throw _
  | backends => exact .throw _
  | templates => exact .throw _
  | template => exact .throw _
  | files mount directory => exact .throw _

theorem spares_answerAt {endpoint : Endpoint} {request : Request}
    (other : ¬ (endpoint = .generate ∧ request.method = "POST")) (captures : List (List Char)) :
    (answerAt workshop moment endpoint captures request).Spares workshop.records
      workshop.images := by
  unfold answerAt
  split
  next => exact .reading _
  next =>
    split
    next => exact spares_answerGet endpoint captures
    next => exact .map _ (spares_answerGet endpoint captures)
    next isPost =>
      have notGenerate : endpoint ≠ .generate := fun isGenerate => other ⟨isGenerate, isPost⟩
      exact spares_answerPost pdfSpares rasterSpares notGenerate captures request
    next => exact .throw _

/-- A request leaves the files of documents alone, or it asks for a generation. -/
theorem spared_or_generates (table : List (Route Endpoint)) (request : Request)
    (state : ServiceState) :
    Spared workshop.records workshop.images state.machine.disk
        (handle workshop table moment request state).2.machine.disk ∨
      ∃ input, readJson CertificateRequest.decoder request = .ok input ∧
        (handle workshop table moment request state).2 =
          (generate workshop moment input state).2 := by
  by_cases asks : request.method = "OPTIONS"
  · rw [snd_handle_of_no_route (.inl asks)]
    exact .inl (.refl _)
  cases found : Route.find? table request.path with
  | none =>
      rw [snd_handle_of_no_route (.inr found)]
      exact .inl (.refl _)
  | some target =>
      obtain ⟨endpoint, captures⟩ := target
      rw [snd_handle asks found]
      by_cases generates : endpoint = .generate ∧ request.method = "POST"
      · obtain ⟨rfl, isPost⟩ := generates
        simp only [answerAt, isPost, answerPost]
        cases isRead : readJson CertificateRequest.decoder request with
        | error fault => exact .inl (.refl _)
        | ok input => exact .inr ⟨input, rfl, rfl⟩
      · exact .inl (spares_answerAt pdfSpares rasterSpares generates captures state)

end Backends

end CertPress.Service
