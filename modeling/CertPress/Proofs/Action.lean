import CertPress.Text.Pieces

/-!
# Actions that succeed

A sequence of actions succeeds exactly if each of them does, the next one from the
state that the last one left.
-/

namespace CertPress.Action

variable {Fault State α β : Type} {before after : State} {value : β}

theorem except_bind_eq_ok {result : Except Fault α} {next : α → Except Fault β} :
    (result >>= next) = .ok value ↔ ∃ first, result = .ok first ∧ next first = .ok value := by
  cases result with
  | ok first => simp [bind, Except.bind]
  | error fault => simp [bind, Except.bind]

theorem mapError_eq_ok {Other : Type} {rename : Fault → Other} {result : Except Fault β} :
    result.mapError rename = .ok value ↔ result = .ok value := by
  cases result with
  | ok first => constructor <;> rintro ⟨⟩ <;> rfl
  | error fault => constructor <;> rintro ⟨⟩

theorem mapError_eq_error {Other : Type} {rename : Fault → Other} {result : Except Fault β}
    {fault : Other} :
    result.mapError rename = .error fault ↔ ∃ inner, result = .error inner ∧ rename inner = fault := by
  cases result with
  | ok first =>
      constructor
      · rintro ⟨⟩
      · rintro ⟨_, ⟨⟩, _⟩
  | error inner =>
      constructor
      · rintro ⟨⟩
        exact ⟨inner, rfl, rfl⟩
      · rintro ⟨_, ⟨⟩, rfl⟩
        rfl

/-- What the second action is run from. -/
theorem run_bind (action : ExceptT Fault (StateM State) α)
    (next : α → ExceptT Fault (StateM State) β) (before : State) :
    (action >>= next) before =
      match action before with
      | (.ok first, between) => next first between
      | (.error fault, between) => (.error fault, between) := by
  simp only [bind, ExceptT.bind, ExceptT.mk, StateT.bind]
  rcases action before with ⟨fault | first, between⟩
  · rfl
  · rfl

/-- What two actions in turn do to the state, where it is something that can be done in
turns. -/
theorem rel_bind (Rel : State → State → Prop) (trans : ∀ {first second third : State},
      Rel first second → Rel second third → Rel first third)
    {action : ExceptT Fault (StateM State) α} {next : α → ExceptT Fault (StateM State) β}
    (first : Rel before (action before).2)
    (second : ∀ value between, action before = (.ok value, between) →
      Rel between (next value between).2) :
    Rel before ((action >>= next) before).2 := by
  rw [run_bind]
  rcases outcome : action before with ⟨fault | value, between⟩
  · rw [outcome] at first
    exact first
  · rw [outcome] at first
    exact trans first (second value between outcome)

theorem bind_eq_ok {action : ExceptT Fault (StateM State) α}
    {next : α → ExceptT Fault (StateM State) β} :
    (action >>= next) before = (.ok value, after) ↔
      ∃ first between, action before = (.ok first, between) ∧
        next first between = (.ok value, after) := by
  rw [run_bind]
  rcases action before with ⟨fault | first, between⟩
  · constructor
    · rintro ⟨⟩
    · rintro ⟨first, state, ⟨⟩, _⟩
  · constructor
    · exact fun done => ⟨first, between, rfl, done⟩
    · rintro ⟨other, state, ⟨⟩, done⟩
      exact done

theorem bind_eq_error {action : ExceptT Fault (StateM State) α}
    {next : α → ExceptT Fault (StateM State) β} {fault : Fault} :
    (action >>= next) before = (.error fault, after) ↔
      action before = (.error fault, after) ∨ ∃ first between,
        action before = (.ok first, between) ∧ next first between = (.error fault, after) := by
  rw [run_bind]
  rcases action before with ⟨other | first, between⟩
  · constructor
    · intro failed
      cases failed
      exact .inl rfl
    · rintro (failed | ⟨first, state, ⟨⟩, _⟩)
      cases failed
      rfl
  · constructor
    · exact fun failed => .inr ⟨first, between, rfl, failed⟩
    · rintro (⟨⟨⟩⟩ | ⟨other, state, ⟨⟩, failed⟩)
      exact failed

theorem pure_eq_ok {result : β} :
    (pure value : ExceptT Fault (StateM State) β) before = (.ok result, after) ↔
      value = result ∧ before = after := by
  constructor
  · rintro ⟨⟩
    exact ⟨rfl, rfl⟩
  · rintro ⟨rfl, rfl⟩
    rfl

theorem lift_eq_ok {outcome : Except Fault β} :
    (liftM outcome : ExceptT Fault (StateM State) β) before = (.ok value, after) ↔
      outcome = .ok value ∧ before = after := by
  constructor
  · rintro ⟨⟩
    exact ⟨rfl, rfl⟩
  · rintro ⟨rfl, rfl⟩
    rfl

theorem lift_eq_error {outcome : Except Fault β} {fault : Fault} :
    (liftM outcome : ExceptT Fault (StateM State) β) before = (.error fault, after) ↔
      outcome = .error fault ∧ before = after := by
  constructor
  · rintro ⟨⟩
    exact ⟨rfl, rfl⟩
  · rintro ⟨rfl, rfl⟩
    rfl

end CertPress.Action
