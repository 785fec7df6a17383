import CertPress.Print.Converter
import CertPress.Proofs.Action

/-!
# Which backends are called

A converter changes a machine by its calls alone.  Every document goes to the backend that
is selected, no matter what became of the documents before it, and a call that fails is the
last one of its operation.
-/

namespace CertPress.Print

open Settings (RasterOptions)

/-- What a backend is asked for. -/
inductive Call where
  | rich (html : String)
  | legacy (html : String)
  | raster (pdf : Bytes) (options : RasterOptions)
  deriving DecidableEq, Repr

/-- The calls that have been made, with one more. -/
def Calls.add (calls : Calls) : Call → Calls
  | .rich _ => { calls with rich := calls.rich + 1 }
  | .legacy _ => { calls with legacy := calls.legacy + 1 }
  | .raster _ _ => { calls with raster := calls.raster + 1 }

/-- A call with the name of the backend that was called and what it answered. -/
structure Exchange where
  call : Call
  backend : String
  answer : Except BackendFault Bytes

/-- What a converter can be asked for. -/
inductive Operation where
  | toPdf (html : String)
  | toImage (html : String) (options : RasterOptions)
  | pdfToImage (pdf : Bytes) (options : RasterOptions)
  deriving DecidableEq, Repr

namespace Converter

/-- The name of the backend that a call goes to, and the work that it is asked for; none
where the backend is missing. -/
def asked? (converter : Converter) : Call → Option (String × BackendAction Bytes)
  | .rich html =>
      converter.capabilities.rich.map fun backend =>
        (backend.name, backend.render html converter.job)
  | .legacy html =>
      converter.capabilities.legacy.map fun backend =>
        (backend.name, backend.render html converter.job)
  | .raster pdf options =>
      converter.capabilities.raster.map fun backend =>
        (backend.name, backend.rasterize pdf options)

/-- The call for the PDF of a document. -/
def pdfCall (converter : Converter) (html : String) : Call :=
  if converter.capabilities.rich.isSome then .rich html else .legacy html

/-- What an operation does. -/
def perform (converter : Converter) : Operation → RenderAction Bytes
  | .toPdf html => converter.toPdf html
  | .toImage html options => converter.toImage html options
  | .pdfToImage pdf options => converter.pdfToImage pdf options

/-- Operations one after another, with their answers.  Those behind one that fails are
performed all the same. -/
def performAll (converter : Converter) :
    List Operation → Machine → List (Except ExportFault Bytes) × Machine
  | [], machine => ([], machine)
  | operation :: rest, machine =>
      let (answer, between) := converter.perform operation machine
      let (answers, after) := converter.performAll rest between
      (answer :: answers, after)

end Converter

/-- What calls do to a machine one after another. -/
inductive Made (converter : Converter) : Machine → List Exchange → Machine → Prop where
  | nothing {machine : Machine} : Made converter machine [] machine
  | call {machine after : Machine} {call : Call} {name : String} {work : BackendAction Bytes}
      {answer : Except BackendFault Bytes} {bench : Workbench} {rest : List Exchange} :
      converter.asked? call = some (name, work) →
      work ⟨machine.disk, machine.fonts⟩ = (answer, bench) →
      Made converter ⟨bench.disk, bench.fonts, machine.calls.add call⟩ rest after →
      Made converter machine (⟨call, name, answer⟩ :: rest) after

/-- A call that failed was the last one and is answered with a fault that names its backend.
A backend that broke down has no fault to tell. -/
def Reported (exchanges : List Exchange) (answer : Except ExportFault Bytes) : Prop :=
  ∀ earlier exchange later fault, exchanges = earlier ++ exchange :: later →
    exchange.answer = .error fault →
    later = [] ∧
      (fault ≠ .crashed → answer = .error (.render exchange.backend fault.message)) ∧
      (fault = .crashed → answer = .error .worker)

/-- Calls between two machines whose answers make up an answer.  The legacy backend is not
called where there is a rich one. -/
structure Follows (converter : Converter) (before : Machine) (exchanges : List Exchange)
    (answer : Except ExportFault Bytes) (after : Machine) : Prop where
  made : Made converter before exchanges after
  selected : converter.capabilities.rich.isSome →
    ∀ exchange ∈ exchanges, ∀ html, exchange.call ≠ .legacy html
  reported : Reported exchanges answer

/-- An operation in a run: the machine that it found, its calls, its answer, and the machine
that it left. -/
structure Step where
  operation : Operation
  before : Machine
  exchanges : List Exchange
  answer : Except ExportFault Bytes
  after : Machine

/-- Steps that follow one another. -/
inductive Chain : Machine → List Step → Machine → Prop where
  | nil {machine : Machine} : Chain machine [] machine
  | cons {step : Step} {rest : List Step} {after : Machine} :
      Chain step.after rest after → Chain step.before (step :: rest) after

namespace Step

/-- The step makes no call and is answered with a fault of the configuration. -/
def Idle (step : Step) (reason : String) : Prop :=
  step.exchanges = [] ∧ step.answer = .error (.configuration reason)

/-- The step makes one call and succeeds with what that gives. -/
def Single (step : Step) (call : Call) (backend : String) : Prop :=
  ∃ result, step.exchanges = [⟨call, backend, result⟩] ∧
    ∀ content, step.answer = .ok content ↔ result = .ok content

/-- What every operation keeps to. -/
structure Lawful (converter : Converter) (step : Step) : Prop extends
    Follows converter step.before step.exchanges step.answer step.after where
  toPdf : ∀ html, step.operation = .toPdf html →
    match converter.capabilities.pdfBackend? with
    | none => step.Idle "no PDF backend available"
    | some backend => step.Single (converter.pdfCall html) backend.name
  toImage : ∀ html options, step.operation = .toImage html options →
    match converter.capabilities.raster with
    | none => step.Idle "no PDF to image converter available"
    | some _ => (step.answer, step.after) =
        (converter.toPdf html >>= fun pdf => converter.pdfToImage pdf options) step.before
  pdfToImage : ∀ pdf options, step.operation = .pdfToImage pdf options →
    match converter.capabilities.raster with
    | none => step.Idle "no PDF to image converter available"
    | some backend => step.Single (.raster pdf options) backend.name

end Step

section Lawful

variable {converter : Converter} {machine between after : Machine}

theorem Made.append {earlier later : List Exchange} (first : Made converter machine earlier between)
    (second : Made converter between later after) :
    Made converter machine (earlier ++ later) after := by
  induction first with
  | nothing => exact second
  | call isAsked worked _ hypothesis => exact .call isAsked worked (hypothesis second)

theorem renderFault_eq {name : String} {fault : BackendFault} (told : fault ≠ .crashed) :
    renderFault name fault = .render name fault.message := by
  cases fault with
  | crashed => exact absurd rfl told
  | notStarted => rfl
  | exited => rfl
  | emptyOutput => rfl
  | failed => rfl

theorem reported_nil (answer : Except ExportFault Bytes) : Reported [] answer := by
  intro earlier exchange later fault split
  exact absurd split.symm (by simp)

theorem reported_singleton (exchange : Exchange) :
    Reported [exchange] (exchange.answer.mapError (renderFault exchange.backend)) := by
  intro earlier other later fault split failed
  obtain ⟨rfl, rfl, rfl⟩ : earlier = [] ∧ other = exchange ∧ later = [] := by
    cases earlier <;> simp_all
  rw [failed]
  refine ⟨rfl, fun told => ?_, ?_⟩
  · exact congrArg Except.error (renderFault_eq told)
  · rintro rfl
    rfl

/-- If an operation succeeds, then all its calls did. -/
theorem Reported.exists_ok {exchanges : List Exchange} {pdf : Bytes}
    (reported : Reported exchanges (.ok pdf)) :
    ∀ exchange ∈ exchanges, ∃ content, exchange.answer = .ok content := by
  intro exchange member
  cases answer : exchange.answer with
  | ok content => exact ⟨content, rfl⟩
  | error fault =>
      obtain ⟨earlier, later, split⟩ := List.append_of_mem member
      obtain ⟨-, told, broken⟩ := reported earlier exchange later fault split answer
      by_cases crashed : fault = .crashed
      · cases broken crashed
      · cases told crashed

/-- After calls that succeeded the others are reported as if they were alone. -/
theorem Reported.append {exchanges rest : List Exchange} {answer : Except ExportFault Bytes}
    (succeeded : ∀ exchange ∈ exchanges, ∃ content, exchange.answer = .ok content)
    (reported : Reported rest answer) : Reported (exchanges ++ rest) answer := by
  induction exchanges with
  | nil => exact reported
  | cons first others hypothesis =>
      obtain ⟨⟨content, isOk⟩, othersSucceeded⟩ := List.forall_mem_cons.mp succeeded
      intro earlier exchange later fault split failed
      cases earlier with
      | nil =>
          obtain ⟨rfl, -⟩ := List.cons.inj split
          cases isOk.symm.trans failed
      | cons _ before =>
          exact hypothesis othersSucceeded before exchange later fault (List.cons.inj split).2 failed

/-- An action that calls no backend. -/
theorem Follows.idle (answer : Except ExportFault Bytes) :
    Follows converter machine [] answer machine :=
  ⟨.nothing, by simp, reported_nil answer⟩

/-- One call. -/
theorem Follows.single {call : Call} {name : String} {work : BackendAction Bytes}
    (isAsked : converter.asked? call = some (name, work))
    (selected : converter.capabilities.rich.isSome → ∀ html, call ≠ .legacy html)
    (machine : Machine) :
    ∃ result after,
      (countCall (·.add call) >>= fun _ => callBackend name work) machine =
        (result.mapError (renderFault name), after) ∧
      Follows converter machine [⟨call, name, result⟩] (result.mapError (renderFault name))
        after := by
  rcases worked : work ⟨machine.disk, machine.fonts⟩ with ⟨result, bench⟩
  refine ⟨result, _, ?_, .call isAsked worked .nothing, ?_, reported_singleton ⟨call, name, result⟩⟩
  · simp only [Action.run_bind, countCall, callBackend, worked]
  · intro rich exchange member
    obtain rfl := List.mem_singleton.mp member
    exact selected rich

/-- The calls of two actions in turn. -/
theorem Follows.exists_bind {action : RenderAction Bytes} {next : Bytes → RenderAction Bytes}
    {exchanges : List Exchange}
    (first : Follows converter machine exchanges (action machine).1 (action machine).2)
    (second : ∀ content between, ∃ more,
      Follows converter between more (next content between).1 (next content between).2) :
    ∃ more, Follows converter machine more ((action >>= next) machine).1
      ((action >>= next) machine).2 := by
  rw [Action.run_bind]
  rcases outcome : action machine with ⟨fault | content, between⟩
  · rw [outcome] at first
    exact ⟨exchanges, first⟩
  · rw [outcome] at first
    obtain ⟨more, later⟩ := second content between
    refine ⟨exchanges ++ more, first.made.append later.made, fun rich exchange member => ?_,
      .append first.reported.exists_ok later.reported⟩
    rcases List.mem_append.mp member with inFirst | inMore
    · exact first.selected rich exchange inFirst
    · exact later.selected rich exchange inMore

theorem asked?_pdfCall {backend : PdfBackend}
    (isBackend : converter.capabilities.pdfBackend? = some backend) (html : String) :
    converter.asked? (converter.pdfCall html) =
      some (backend.name, backend.render html converter.job) := by
  unfold Converter.pdfCall
  rw [Capabilities.pdfBackend?] at isBackend
  cases rich : converter.capabilities.rich with
  | some other =>
      rw [rich] at isBackend
      cases isBackend
      simp [Converter.asked?, rich]
  | none =>
      rw [rich] at isBackend
      simp [Converter.asked?, show converter.capabilities.legacy = some backend from isBackend]

theorem asked?_raster {backend : RasterBackend}
    (isBackend : converter.capabilities.raster = some backend) (pdf : Bytes)
    (options : RasterOptions) :
    converter.asked? (.raster pdf options) =
      some (backend.name, backend.rasterize pdf options) := by
  rw [Converter.asked?, isBackend, Option.map_some]

theorem pdfCall_ne_legacy (rich : converter.capabilities.rich.isSome) (html other : String) :
    converter.pdfCall html ≠ .legacy other := by
  rw [Converter.pdfCall, if_pos rich]
  exact Call.noConfusion

theorem toPdf_eq {backend : PdfBackend}
    (isBackend : converter.capabilities.pdfBackend? = some backend) (html : String) :
    converter.toPdf html = (countCall (·.add (converter.pdfCall html)) >>= fun _ =>
      callBackend backend.name (backend.render html converter.job)) := by
  simp only [Converter.toPdf, Converter.pdfCall, isBackend]
  cases converter.capabilities.rich.isSome with
  | false => rfl
  | true => rfl

theorem toPdf_of_none (none : converter.capabilities.pdfBackend? = none) (html : String) :
    converter.toPdf html = throw (.configuration "no PDF backend available") := by
  unfold Converter.toPdf
  rw [none]

theorem pdfToImage_eq {backend : RasterBackend}
    (isBackend : converter.capabilities.raster = some backend) (pdf : Bytes)
    (options : RasterOptions) :
    converter.pdfToImage pdf options = (countCall (·.add (.raster pdf options)) >>= fun _ =>
      callBackend backend.name (backend.rasterize pdf options)) := by
  unfold Converter.pdfToImage
  rw [isBackend]
  rfl

theorem pdfToImage_of_none (none : converter.capabilities.raster = none) (pdf : Bytes)
    (options : RasterOptions) : converter.pdfToImage pdf options = throw Converter.noRaster := by
  unfold Converter.pdfToImage
  rw [none]

theorem toImage_of_none (none : converter.capabilities.raster = none) (html : String)
    (options : RasterOptions) : converter.toImage html options = throw Converter.noRaster := by
  unfold Converter.toImage
  rw [none]
  rfl

theorem toImage_of_some {backend : RasterBackend}
    (isBackend : converter.capabilities.raster = some backend) (html : String)
    (options : RasterOptions) :
    converter.toImage html options =
      (converter.toPdf html >>= fun pdf => converter.pdfToImage pdf options) := by
  unfold Converter.toImage
  rw [isBackend]
  rfl

/-- The step of a document that is made a PDF. -/
theorem exists_lawful_toPdf (converter : Converter) (html : String) (machine : Machine) :
    ∃ exchanges, Step.Lawful converter ⟨.toPdf html, machine, exchanges,
      (converter.toPdf html machine).1, (converter.toPdf html machine).2⟩ := by
  cases isBackend : converter.capabilities.pdfBackend? with
  | none =>
      rw [toPdf_of_none isBackend]
      refine ⟨[], .idle _, ?_, nofun, nofun⟩
      rw [isBackend]
      exact fun _ _ => ⟨rfl, rfl⟩
  | some backend =>
      obtain ⟨result, after, worked, follows⟩ := Follows.single (asked?_pdfCall isBackend html)
        (fun rich => pdfCall_ne_legacy rich html) machine
      rw [toPdf_eq isBackend, worked]
      refine ⟨_, follows, ?_, nofun, nofun⟩
      rw [isBackend]
      rintro _ ⟨⟩
      exact ⟨result, rfl, fun _ => Action.mapError_eq_ok⟩

/-- The step of a PDF that is made an image. -/
theorem exists_lawful_pdfToImage (converter : Converter) (pdf : Bytes) (options : RasterOptions)
    (machine : Machine) :
    ∃ exchanges, Step.Lawful converter ⟨.pdfToImage pdf options, machine, exchanges,
      (converter.pdfToImage pdf options machine).1,
      (converter.pdfToImage pdf options machine).2⟩ := by
  cases isBackend : converter.capabilities.raster with
  | none =>
      rw [pdfToImage_of_none isBackend]
      refine ⟨[], .idle _, nofun, nofun, ?_⟩
      rw [isBackend]
      exact fun _ _ _ => ⟨rfl, rfl⟩
  | some backend =>
      obtain ⟨result, after, worked, follows⟩ := Follows.single (asked?_raster isBackend pdf options)
        (fun _ _ => Call.noConfusion) machine
      rw [pdfToImage_eq isBackend, worked]
      refine ⟨_, follows, nofun, nofun, ?_⟩
      rw [isBackend]
      rintro _ _ ⟨⟩
      exact ⟨result, rfl, fun _ => Action.mapError_eq_ok⟩

/-- The step of a document that is made an image.  Its calls are those of the document that
is made a PDF and, if that succeeds, those of the PDF that is made an image. -/
theorem exists_lawful_toImage (converter : Converter) (html : String) (options : RasterOptions)
    (machine : Machine) :
    ∃ exchanges, Step.Lawful converter ⟨.toImage html options, machine, exchanges,
      (converter.toImage html options machine).1, (converter.toImage html options machine).2⟩ := by
  cases isBackend : converter.capabilities.raster with
  | none =>
      rw [toImage_of_none isBackend]
      refine ⟨[], .idle _, nofun, ?_, nofun⟩
      rw [isBackend]
      exact fun _ _ _ => ⟨rfl, rfl⟩
  | some backend =>
      obtain ⟨_, lawful⟩ := exists_lawful_toPdf converter html machine
      have later (pdf : Bytes) (between : Machine) : ∃ more, Follows converter between more
          (converter.pdfToImage pdf options between).1
          (converter.pdfToImage pdf options between).2 :=
        (exists_lawful_pdfToImage converter pdf options between).imp fun _ => Step.Lawful.toFollows
      obtain ⟨exchanges, follows⟩ := lawful.toFollows.exists_bind later
      rw [toImage_of_some isBackend]
      refine ⟨exchanges, follows, nofun, ?_, nofun⟩
      rw [isBackend]
      rintro _ _ ⟨⟩
      rfl

/-- Every operation is a lawful step, whatever it starts from. -/
theorem exists_lawful (converter : Converter) (operation : Operation) (machine : Machine) :
    ∃ step : Step, step.operation = operation ∧ step.before = machine ∧
      converter.perform operation machine = (step.answer, step.after) ∧ step.Lawful converter := by
  cases operation with
  | toPdf html =>
      obtain ⟨exchanges, lawful⟩ := exists_lawful_toPdf converter html machine
      exact ⟨_, rfl, rfl, rfl, lawful⟩
  | toImage html options =>
      obtain ⟨exchanges, lawful⟩ :=
        exists_lawful_toImage converter html options machine
      exact ⟨_, rfl, rfl, rfl, lawful⟩
  | pdfToImage pdf options =>
      obtain ⟨exchanges, lawful⟩ :=
        exists_lawful_pdfToImage converter pdf options machine
      exact ⟨_, rfl, rfl, rfl, lawful⟩

/-- A run is a chain of lawful steps, by induction on its operations. -/
theorem exists_chain (converter : Converter) (operations : List Operation) (machine : Machine) :
    ∃ steps, Chain machine steps (converter.performAll operations machine).2 ∧
      steps.map Step.operation = operations ∧
      steps.map Step.answer = (converter.performAll operations machine).1 ∧
      ∀ step ∈ steps, step.Lawful converter := by
  induction operations generalizing machine with
  | nil => exact ⟨[], .nil, rfl, rfl, by simp⟩
  | cons operation rest hypothesis =>
      obtain ⟨step, rfl, rfl, performed, lawful⟩ :=
        exists_lawful converter operation machine
      obtain ⟨steps, chain, rfl, sameAnswers, restLawful⟩ := hypothesis step.after
      simp only [Converter.performAll, performed]
      refine ⟨step :: steps, .cons chain, rfl, ?_, List.forall_mem_cons.mpr ⟨lawful, restLawful⟩⟩
      rw [List.map_cons, sameAnswers]

end Lawful

/-! ## The backend that is not selected -/

/-- The converter with another legacy backend, or without one. -/
def Converter.withLegacy (converter : Converter) (legacy : Option PdfBackend) : Converter :=
  { converter with capabilities := { converter.capabilities with legacy } }

section Rich

variable {converter : Converter} (rich : converter.capabilities.rich.isSome)
  (legacy : Option PdfBackend)
include rich

theorem toPdf_withLegacy (html : String) :
    (converter.withLegacy legacy).toPdf html = converter.toPdf html := by
  obtain ⟨backend, isRich⟩ := Option.isSome_iff_exists.mp rich
  simp only [Converter.toPdf, Converter.withLegacy, Capabilities.pdfBackend?, isRich]
  rfl

theorem perform_withLegacy (operation : Operation) :
    (converter.withLegacy legacy).perform operation = converter.perform operation := by
  cases operation with
  | toPdf html => exact toPdf_withLegacy rich legacy html
  | toImage html options =>
      simp only [Converter.perform, Converter.toImage, toPdf_withLegacy rich]
      rfl
  | pdfToImage pdf options => rfl

theorem performAll_withLegacy (operations : List Operation) (machine : Machine) :
    (converter.withLegacy legacy).performAll operations machine =
      converter.performAll operations machine := by
  induction operations generalizing machine with
  | nil => rfl
  | cons operation rest hypothesis =>
      simp only [Converter.performAll, perform_withLegacy rich, hypothesis]

end Rich

/-- Every run is a chain of lawful steps: documents go to the selected backend alone, and no
call follows one that failed.  Where there is a rich backend, the legacy one has no part in
the run. -/
theorem performAll_lawful (converter : Converter) (operations : List Operation)
    (machine : Machine) :
    (∃ steps, Chain machine steps (converter.performAll operations machine).2 ∧
      steps.map Step.operation = operations ∧
      steps.map Step.answer = (converter.performAll operations machine).1 ∧
      ∀ step ∈ steps, step.Lawful converter) ∧
    (converter.capabilities.rich.isSome → ∀ legacy,
      (converter.withLegacy legacy).performAll operations machine =
        converter.performAll operations machine) :=
  ⟨exists_chain converter operations machine,
    fun rich legacy => performAll_withLegacy rich legacy operations machine⟩

end CertPress.Print
