import CertPress.Proofs.Store.Frame

/-!
# Writes as a whole

A write either happens or it does not.  If it happens then the object is read as what was
written, and no other file changes, whatever key it is reached by.  If it does not happen then
no file changes, and none is left behind that the content was staged in.
-/

namespace CertPress.Store

open Disk (Keeps Grows place)

variable {α : Type} {root : FilePath} {key : String} {content : Bytes} {before after : Disk}
variable {fault : StoreFault}

/-! ## Objects that are new -/

/-- A new object is read as what was written. -/
theorem read_putIfAbsent (done : putIfAbsent root key content before = (.ok true, after)) :
    read root key after = .ok content := by
  rw [putIfAbsent_eq] at done
  obtain ⟨path, _, found, rest⟩ := Action.bind_eq_ok.mp done
  obtain ⟨isPath, rfl⟩ := Action.lift_eq_ok.mp found
  obtain ⟨_, made, prepared, wrote⟩ := Action.bind_eq_ok.mp rest
  cases targeted : made.target path true with
  | error other =>
      unfold Disk.writeNew at wrote
      rw [targeted] at wrote
      cases other <;> cases wrote
  | ok location =>
      obtain ⟨located, nothing⟩ := Disk.target_new_eq_ok targeted
      have isAfter : made.set location (.file content false) = after := by
        unfold Disk.writeNew at wrote
        rw [targeted] at wrote
        cases wrote
        rfl
      have isThere : after.at? location = some (.file content false) :=
        isAfter ▸ Disk.at?_set_self nothing _
      have free : made.at? location ≠ some .directory := by simp [nothing]
      have stays : after.locate path = .ok location := isAfter ▸ Disk.locate_set free located
      rw [read, isPath]
      simp only [bind, Except.bind, Disk.read, Disk.find, stays, isThere]
      rfl

/-- An object that is not written changes no file. -/
theorem putIfAbsent_unwritten {result : Except StoreFault Bool}
    (done : putIfAbsent root key content before = (result, after)) (unwritten : result ≠ .ok true) :
    Keeps (fun _ => True) before after := by
  rw [putIfAbsent_eq, Action.run_bind] at done
  cases isPath : objectPath root key with
  | error other =>
      rw [isPath] at done
      cases done
      exact .refl _ _
  | ok path =>
      rw [isPath] at done
      have keeps := keeps_prepare path before
      change (prepare path >>= _) before = _ at done
      rw [Action.run_bind] at done
      rcases prepared : prepare path before with ⟨other | _, made⟩
      · rw [prepared] at done keeps
        cases done
        exact keeps
      · rw [prepared] at done keeps
        unfold Disk.writeNew at done
        dsimp only at done
        cases targeted : made.target path true with
        | error other =>
            rw [targeted] at done
            cases other <;> (cases done; exact keeps)
        | ok location =>
            rw [targeted] at done
            cases done
            exact absurd rfl unwritten

/-! ## Writes -/

/-- Until the temporary file takes its name nothing is lost, and an object that is replaced is
still read as the old one. -/
theorem grows_stage (path : FilePath) (content : Bytes) (disk : Disk) :
    Grows (fun _ written => written = content) disk (stage path content disk).2 := by
  refine Action.rel_bind (Grows _) Grows.trans ?_ ?_
  · exact (grows_prepare path disk).mono fun _ _ => False.elim
  · intro _ made _
    exact (Disk.grows_set_file (Disk.at?_fresh (made.fresh_unusedName path)) content false).mono
      fun _ _ isMade => isMade.2

/-- What a write of an object leaves: if it wrote, then the object is read as the content and
the files at other places are as they were; if it did not, then all files are. -/
def Atomic (root : FilePath) (key : String) (content : Bytes) (wrote : α → Bool)
    (write : StoreAction α) : Prop :=
  ∀ {before after : Disk} {result : Except StoreFault α}, write before = (result, after) →
    if result.toOption.any wrote then
      read root key after = .ok content ∧
        Keeps (fun other => other.key ≠ (before.place (root.join key)).key) before after
    else Keeps (fun _ => True) before after

theorem atomic_put (root : FilePath) (key : String) (content : Bytes) :
    Atomic root key content (fun _ => true) (put root key content) := by
  intro before after result done
  cases result with
  | error fault => exact (put_eq_error done).1
  | ok _ =>
      have keeps := keeps_put root key content before
      rw [done] at keeps
      exact ⟨read_put done, keeps⟩

theorem atomic_putIfAbsent (root : FilePath) (key : String) (content : Bytes) :
    Atomic root key content id (putIfAbsent root key content) := by
  intro before after result done
  cases result with
  | error fault => exact putIfAbsent_unwritten done (by simp)
  | ok written =>
      cases written with
      | false => exact putIfAbsent_unwritten done (by simp)
      | true =>
          have grows := grows_putIfAbsent root key content before
          rw [done] at grows
          exact ⟨read_putIfAbsent done, grows.keeps fun _ apart _ isMade => apart isMade.1⟩

/-- Every write is atomic, and writes no file but the one that its key names. -/
theorem writes_atomic (root : FilePath) (key : String) :
    (∀ content, Atomic root key content (fun _ => true) (put root key content)) ∧
    (∀ content, Atomic root key content id (putIfAbsent root key content)) ∧
    (∀ record : Json.Value,
      Atomic root key (bytesOf record.pretty) (fun _ => true) (saveRecord root key record)) :=
  ⟨atomic_put root key, atomic_putIfAbsent root key,
    fun record => atomic_put root key (bytesOf record.pretty)⟩

end CertPress.Store
