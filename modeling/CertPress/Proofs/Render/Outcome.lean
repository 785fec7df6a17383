import CertPress.Proofs.Render.Materialize

/-!
# How a final render ends

A final render without an image fails exactly if the template has no source that can be
filled in, no backend makes PDFs, or the backend fails; a backend that breaks down fails
like any other.  Otherwise the PDF is what the backend answered.
-/

namespace CertPress.Render

open Print (BackendFault Machine Workbench)

/-- The answer of the backend to the document that a job fills in. -/
def Answered (renderer : Renderer) (job : Job) (machine : Machine)
    (answer : Except BackendFault Bytes) : Prop :=
  ∃ built between html backend bench,
    buildContext renderer.settings job .final machine = (.ok built, between) ∧
    fill built = .ok html ∧ renderer.capabilities.pdfBackend? = some backend ∧
    backend.render html renderer.converter.job ⟨between.disk, between.fonts⟩ = (answer, bench)

/-- Why a render without an image fails. -/
inductive Fails (renderer : Renderer) (job : Job) (machine : Machine) : Prop where
  /-- The template is no page, or its source is blank. -/
  | noSource {fault : ExportFault} : source? job.template = .error fault → Fails renderer job machine
  /-- The source is no template. -/
  | notFilled {built : BuiltContext} {between : Machine} {fault : ExportFault} :
      buildContext renderer.settings job .final machine = (.ok built, between) →
      fill built = .error fault → Fails renderer job machine
  | noBackend : renderer.capabilities.pdfBackend? = none → Fails renderer job machine
  | backend {fault : BackendFault} :
      Answered renderer job machine (.error fault) → Fails renderer job machine

variable {renderer : Renderer} {job : Job} {machine after : Machine}

/-- Only a template without a source keeps a job from its data. -/
theorem source?_of_buildContext {settings : Settings.RenderSettings} {mode : Record.RenderMode}
    {fault : ExportFault} (failed : buildContext settings job mode machine = (.error fault, after)) :
    source? job.template = .error fault := by
  unfold buildContext at failed
  split at failed
  next none =>
    cases failed
    exact none
  next => cases failed

theorem buildContext_of_source? {fault : ExportFault} (none : source? job.template = .error fault)
    (settings : Settings.RenderSettings) (mode : Record.RenderMode) (machine : Machine) :
    buildContext settings job mode machine = (.error fault, machine) := by
  unfold buildContext
  rw [none]

theorem toPdf_of_no_backend (none : renderer.capabilities.pdfBackend? = none) (html : String)
    (machine : Machine) :
    (renderer.converter.toPdf html machine).1 =
      .error (.configuration "no PDF backend available") := by
  simp only [Print.Converter.toPdf, Renderer.converter, none]
  rfl

theorem toPdf_of_backend {backend : Print.PdfBackend}
    (isBackend : renderer.capabilities.pdfBackend? = some backend) (html : String)
    (machine : Machine) :
    (renderer.converter.toPdf html machine).1 =
      (backend.render html renderer.converter.job ⟨machine.disk, machine.fonts⟩).1.mapError
        (Print.renderFault backend.name) := by
  simp only [Print.Converter.toPdf, Renderer.converter, isBackend]
  rfl

/-- The PDF of a final render is what the backend answered. -/
theorem answered_of_final {final : Final}
    (rendered : renderer.final job false machine = (.ok final, after)) :
    Answered renderer job machine (.ok final.pdf) := by
  obtain ⟨built, html, between, converted, isBuilt, filled, isPdf, -⟩ := final_eq_ok rendered
  have result := congrArg Prod.fst isPdf
  cases isBackend : renderer.capabilities.pdfBackend? with
  | none =>
      rw [toPdf_of_no_backend isBackend] at result
      cases result
  | some backend =>
      rw [toPdf_of_backend isBackend] at result
      exact ⟨built, between, html, backend, _, isBuilt, filled, isBackend,
        Prod.ext (Action.mapError_eq_ok.mp result) rfl⟩

theorem fails_of_final {fault : ExportFault}
    (failed : renderer.final job false machine = (.error fault, after)) :
    Fails renderer job machine := by
  unfold Renderer.final at failed
  rw [Bool.false_and, if_neg Bool.false_ne_true] at failed
  rcases Action.bind_eq_error.mp failed with unbuilt | ⟨built, between, isBuilt, onBuilt⟩
  · exact .noSource (source?_of_buildContext unbuilt)
  rcases Action.bind_eq_error.mp onBuilt with unfilled | ⟨html, same, isFilled, onHtml⟩
  · exact .notFilled isBuilt (Action.lift_eq_error.mp unfilled).1
  obtain ⟨filled, rfl⟩ := Action.lift_eq_ok.mp isFilled
  rcases Action.bind_eq_error.mp onHtml with unconverted | ⟨pdf, converted, -, last⟩
  · cases isBackend : renderer.capabilities.pdfBackend? with
    | none => exact .noBackend isBackend
    | some backend =>
        have result := congrArg Prod.fst unconverted
        rw [toPdf_of_backend isBackend] at result
        obtain ⟨inner, isFault, -⟩ := Action.mapError_eq_error.mp result
        exact .backend ⟨built, between, html, backend, _, isBuilt, filled, isBackend,
          Prod.ext isFault rfl⟩
  · cases last

/-- A job has one answer. -/
theorem answered_unique {answer other : Except BackendFault Bytes}
    (answered : Answered renderer job machine answer)
    (otherAnswered : Answered renderer job machine other) : answer = other := by
  obtain ⟨built, between, html, backend, _, isBuilt, filled, isBackend, isAnswer⟩ := answered
  obtain ⟨_, _, _, _, _, otherBuilt, otherFilled, otherBackend, isOther⟩ := otherAnswered
  cases isBuilt.symm.trans otherBuilt
  cases filled.symm.trans otherFilled
  cases isBackend.symm.trans otherBackend
  exact congrArg Prod.fst (isAnswer.symm.trans isOther)

theorem not_fails_of_answered {pdf : Bytes} (answered : Answered renderer job machine (.ok pdf)) :
    ¬ Fails renderer job machine := by
  have ⟨built, between, html, backend, bench, isBuilt, filled, isBackend, _⟩ := answered
  intro fails
  cases fails with
  | noSource none =>
      rw [buildContext_of_source? none] at isBuilt
      cases isBuilt
  | notFilled otherBuilt unfilled =>
      cases isBuilt.symm.trans otherBuilt
      cases filled.symm.trans unfilled
  | noBackend none => cases isBackend.symm.trans none
  | backend failed => cases answered_unique answered failed

theorem not_fails_of_final {final : Final}
    (rendered : renderer.final job false machine = (.ok final, after)) :
    ¬ Fails renderer job machine :=
  not_fails_of_answered (answered_of_final rendered)

/-- A render fails for one of the reasons for which renders fail. -/
theorem final_eq_error_iff :
    (∃ fault after, renderer.final job false machine = (.error fault, after)) ↔
      Fails renderer job machine := by
  constructor
  · rintro ⟨fault, after, failed⟩
    exact fails_of_final failed
  · intro fails
    rcases outcome : renderer.final job false machine with ⟨fault | final, after⟩
    · exact ⟨fault, after, rfl⟩
    · exact absurd fails (not_fails_of_final outcome)

end CertPress.Render
