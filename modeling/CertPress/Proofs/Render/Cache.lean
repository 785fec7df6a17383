import CertPress.Render.Cache
import Mathlib.Data.List.Induction

/-!
# How old a remembered template may be

Templates are written and removed while a cache remembers some of them.  Whatever
it is asked for, it gives what the records themselves would have given at some
moment since the template, or the list, was last dropped.
-/

namespace CertPress.Render.TemplateCache

open Record (Template)

/-! ## Runs -/

/-- What happens next: the records are changed, or the cache is asked or told to
drop something. -/
inductive Event where
  | change (after : Disk)
  | get (id : Uuid)
  | list
  | invalidate (id : Option Uuid)
  | clear

namespace Event

/-- Whether a template may not be remembered from before the event. -/
def Drops (id : Uuid) : Event → Prop
  | .invalidate none => True
  | .invalidate (some dropped) => dropped = id
  | .clear => True
  | _ => False

/-- Whether the list may not be remembered from before the event. -/
def DropsList : Event → Prop
  | .invalidate _ => True
  | .clear => True
  | _ => False

end Event

/-- The cache and the disk after an event. -/
def step (state : TemplateCache × Disk) (event : Event) : TemplateCache × Disk :=
  match event with
  | .change after => (state.1, after)
  | .get id => ((state.1.get id state.2).2, state.2)
  | .list => ((state.1.list state.2).2, state.2)
  | .invalidate id => (state.1.invalidate id, state.2)
  | .clear => (state.1.clear, state.2)

/-- The cache and the disk after events, from a cache that remembers nothing. -/
def run (records : FilePath) (disk : Disk) (events : List Event) : TemplateCache × Disk :=
  events.foldl step (start records, disk)

variable {records : FilePath} {disk : Disk} {events earlier : List Event} {event : Event}

@[simp] theorem run_append_singleton (records : FilePath) (disk : Disk) (events : List Event)
    (event : Event) :
    run records disk (events ++ [event]) = step (run records disk events) event :=
  List.foldl_append ..

/-- Something was so at a moment of a run, and no event since then drops it. -/
def Since (drops : Event → Prop) (holds : List Event → Prop) (events : List Event) : Prop :=
  ∃ earlier later, events = earlier ++ later ∧ (∀ event ∈ later, ¬ drops event) ∧ holds earlier

namespace Since

variable {drops : Event → Prop} {holds : List Event → Prop}

theorem now (isSo : holds events) : Since drops holds events :=
  ⟨events, [], (List.append_nil _).symm, List.forall_mem_nil _, isSo⟩

/-- What was so since it was last dropped was so when the next event does not drop it. -/
theorem append (since : Since drops holds events) (stays : ¬ drops event) :
    Since drops holds (events ++ [event]) := by
  obtain ⟨earlier, later, rfl, noneDrops, isSo⟩ := since
  refine ⟨earlier, later ++ [event], List.append_assoc .., ?_, isSo⟩
  intro other member
  rcases List.mem_append.mp member with inLater | isLast
  · exact noneDrops other inLater
  · exact List.mem_singleton.mp isLast ▸ stays

end Since

/-! ## What a cache remembers -/

section Remembered

variable (cache : TemplateCache) (id other : Uuid)

/-- A template that was read just now takes the place of an older one. -/
theorem remembered?_remember (template : Template) :
    (cache.remember cache.generation id template).remembered? other =
      if id = other then some template else cache.remembered? other := by
  rw [remember, if_pos rfl, remembered?, List.find?_cons]
  by_cases same : id = other
  · simp [same]
  · simp [beq_eq_false_iff_ne.mpr same, same, remembered?]

theorem remembered?_drop :
    (cache.drop id).remembered? other = if id = other then none else cache.remembered? other := by
  rw [drop, remembered?, remembered?, List.find?_filter]
  split
  next same =>
    subst same
    simp
  next differ =>
    congr 2
    funext entry
    by_cases isOther : entry.1 = other
    · simp [isOther, Ne.symm differ]
    · simp [isOther]

@[simp] theorem remembered?_clear : cache.clear.remembered? id = none := rfl

end Remembered

/-! ## Fresh answers -/

variable (records disk)

/-- At a moment of a run the records gave an answer for a template, and the template was not
dropped since then. -/
def Gave (id : Uuid) (answer : Except ExportFault Template) (events : List Event) : Prop :=
  Since (Event.Drops id) (fun earlier => load records id (run records disk earlier).2 = answer)
    events

/-- At a moment of a run the records gave an answer for the list, and the list was not dropped
since then. -/
def GaveList (answer : Except ExportFault (List Template)) (events : List Event) : Prop :=
  Since Event.DropsList (fun earlier => loadListed records (run records disk earlier).2 = answer)
    events

/-- What a cache remembers after a run, the records gave. -/
structure Fresh (events : List Event) (cache : TemplateCache) : Prop where
  home : cache.records = records
  template : ∀ id template, cache.remembered? id = some template →
    Gave records disk id (.ok template) events
  list : ∀ templates, cache.listed = some templates → GaveList records disk (.ok templates) events

namespace Fresh

variable {records disk} {cache : TemplateCache} (fresh : Fresh records disk events cache)

/-- An event that drops nothing leaves fresh what is remembered. -/
theorem append (fresh : Fresh records disk events cache) (drops : ∀ id, ¬ event.Drops id)
    (dropsList : ¬ event.DropsList) : Fresh records disk (events ++ [event]) cache :=
  ⟨fresh.home, fun id template isThere => (fresh.template id template isThere).append (drops id),
    fun templates isThere => (fresh.list templates isThere).append dropsList⟩

include fresh

theorem get (id : Uuid) : Gave records disk id (cache.get id (run records disk events).2).1 events ∧
    Fresh records disk events (cache.get id (run records disk events).2).2 := by
  unfold TemplateCache.get
  split
  next template isThere => exact ⟨fresh.template id template isThere, fresh⟩
  next =>
    rw [fresh.home]
    dsimp only
    split
    next template loaded =>
      refine ⟨.now loaded, ?_, ?_, ?_⟩
      · rw [remember, if_pos rfl]
        exact fresh.home
      · intro other found isThere
        rw [remembered?_remember] at isThere
        split at isThere
        next same =>
          cases isThere
          exact same ▸ .now loaded
        next => exact fresh.template other found isThere
      · rw [remember, if_pos rfl]
        exact fresh.list
    next fault failed => exact ⟨.now failed, fresh⟩

theorem list_step : GaveList records disk (cache.list (run records disk events).2).1 events ∧
    Fresh records disk events (cache.list (run records disk events).2).2 := by
  unfold TemplateCache.list
  split
  next templates isThere => exact ⟨fresh.list templates isThere, fresh⟩
  next =>
    rw [fresh.home]
    dsimp only
    split
    next templates loaded =>
      rw [rememberList, if_pos rfl]
      refine ⟨.now loaded, fresh.home, fresh.template, ?_⟩
      intro found isThere
      cases isThere
      exact .now loaded
    next fault failed => exact ⟨.now failed, fresh⟩

/-- What is not dropped with a template was not dropped with others either. -/
theorem invalidate (dropped : Option Uuid) :
    Fresh records disk (events ++ [.invalidate dropped]) (cache.invalidate dropped) := by
  cases dropped with
  | none => exact ⟨fresh.home, fun _ _ => nofun, fun _ => nofun⟩
  | some id =>
      refine ⟨fresh.home, fun other template isThere => ?_, fun _ => nofun⟩
      rw [TemplateCache.invalidate, remembered?_drop] at isThere
      split at isThere
      next => cases isThere
      next differ => exact (fresh.template other template isThere).append differ

theorem clear : Fresh records disk (events ++ [.clear]) cache.clear :=
  ⟨fresh.home, fun _ _ => nofun, fun _ => nofun⟩

end Fresh

/-- Whatever happens next, what is remembered stays fresh. -/
theorem fresh_step {state : TemplateCache × Disk} (isRun : state.2 = (run records disk events).2)
    (fresh : Fresh records disk events state.1) :
    Fresh records disk (events ++ [event]) (step state event).1 := by
  cases event with
  | change after => exact fresh.append (fun _ => not_false) not_false
  | get id =>
      rw [step, isRun]
      exact (fresh.get id).2.append (fun _ => not_false) not_false
  | list =>
      rw [step, isRun]
      exact fresh.list_step.2.append (fun _ => not_false) not_false
  | invalidate id => exact fresh.invalidate id
  | clear => exact fresh.clear

theorem fresh_run (events : List Event) :
    Fresh records disk events (run records disk events).1 := by
  induction events using List.reverseRecOn with
  | nil => exact ⟨rfl, fun _ _ => nofun, fun _ => nofun⟩
  | append_singleton earlier event hypothesis =>
      rw [run_append_singleton]
      exact fresh_step records disk rfl hypothesis

/-! ## What is given out -/

theorem isActive_of_load {id : Uuid} {template : Template}
    (loaded : load records id disk = .ok template) : template.isActive := by
  unfold load at loaded
  split at loaded
  next =>
    split at loaded
    next active =>
      cases loaded
      exact active
    next => cases loaded
  next => cases loaded
  next => cases loaded

theorem isPublic_of_loadListed {templates : List Template} {template : Template}
    (loaded : loadListed records disk = .ok templates) (member : template ∈ templates) :
    template.isActive ∧ template.isPublic := by
  unfold loadListed at loaded
  split at loaded
  next =>
    cases loaded
    rw [List.mem_mergeSort] at member
    simpa using (List.mem_filter.mp member).2
  next => cases loaded

/-- After any run, the next answer for a template is what the records gave at some moment
since the template was last dropped, and the next list is what they gave at some moment since
anything was.  Only active templates are given out, and only public ones are listed. -/
theorem answers_fresh (events : List Event) :
    (∀ id, Gave records disk id
      ((run records disk events).1.get id (run records disk events).2).1 events) ∧
    GaveList records disk ((run records disk events).1.list (run records disk events).2).1 events ∧
    (∀ id template,
      ((run records disk events).1.get id (run records disk events).2).1 = .ok template →
        template.isActive) ∧
    ∀ templates, ((run records disk events).1.list (run records disk events).2).1 = .ok templates →
      ∀ template ∈ templates, template.isActive ∧ template.isPublic := by
  have fresh := fresh_run records disk events
  have gave (id : Uuid) := (fresh.get id).1
  have gaveList := fresh.list_step.1
  refine ⟨gave, gaveList, ?_, ?_⟩
  · intro id template isGiven
    obtain ⟨earlier, _, -, -, loaded⟩ := gave id
    exact isActive_of_load _ _ (loaded.trans isGiven)
  · intro templates isGiven template member
    obtain ⟨earlier, _, -, -, loaded⟩ := gaveList
    exact isPublic_of_loadListed _ _ (loaded.trans isGiven) member

end CertPress.Render.TemplateCache
