import CertPress.Proofs.Keys
import CertPress.Render.Pipeline
import Mathlib.Logic.Basic

/-!
# Trusted values of a render

A payload has no say in the values that identify who issued a document and how
it is rendered.  What a template sees of them is what it would see if there were
no payload at all: `secured` builds it from the trusted facts alone, and each
stage of a render keeps the agreement with it.
-/

namespace CertPress

open Json (Value Object)
open Record (Authoritative Category Organization RenderMode Template)
open Settings (RenderSettings)
open Asset (Progress Resolver)
open Mapping (Agree)

namespace Context

/-- The keys of trusted facts. -/
def trustedKeys : List String :=
  ["date", "candidate_name", "spa"] ++ Organization.contextFields.map (·.2)

theorem exists_entry_project (record : Value) (exposed : List (String × String)) {key : String} :
    (∃ entry ∈ (Record.project record exposed).entries, entry.1 = key) ↔
      ∃ field ∈ exposed, field.2 = key := by
  rw [← Mapping.contains_iff, Record.project, Mapping.contains_ofList]
  simp only [List.mem_map, exists_exists_and_eq_and]

theorem exists_entry_blank (exposed : List (String × String)) {key : String} :
    (∃ entry ∈ exposed.map fun (_, key) => (key, Value.string ""), entry.1 = key) ↔
      ∃ field ∈ exposed, field.2 = key := by
  simp only [List.mem_map, exists_exists_and_eq_and]

/-- Trusted facts have a value at each of their keys. -/
theorem contains_trusted (facts : Authoritative) {key : String} (member : key ∈ trustedKeys) :
    (trusted facts).contains key := by
  have found : key = "date" ∨ key = "candidate_name" ∨ key = "spa" ∨
      ∃ field ∈ Organization.contextFields, field.2 = key := by
    simpa [trustedKeys] using member
  rw [trusted]
  split
  · rw [Mapping.contains_insert, Mapping.contains_insertAll, Mapping.contains_ofList,
      exists_entry_project]
    rcases found with rfl | rfl | rfl | inFields <;> simp_all
  · rw [Mapping.contains_insert, Mapping.contains_insertAll, Mapping.contains_ofList,
      exists_entry_blank]
    rcases found with rfl | rfl | rfl | inFields <;> simp_all

theorem get?_trusted_candidate_name (facts : Authoritative) :
    (trusted facts).get? "candidate_name" = some (.string (facts.displayName.getD "")) := by
  have other : ¬ ∃ field ∈ Organization.contextFields, field.2 = "candidate_name" := by decide
  rw [trusted]
  split
  next organization _ =>
    rw [← exists_entry_project organization.toValue] at other
    simp only [Mapping.get?_insert]
    rw [Mapping.get?_insertAll_other other]
    simp [Mapping.ofList, Mapping.insertAll]
  next =>
    rw [← exists_entry_blank] at other
    simp only [Mapping.get?_insert]
    rw [Mapping.get?_insertAll_other other]
    simp [Mapping.ofList, Mapping.insertAll]

/-- A payload is merged into the keys that are still free. -/
theorem agree_addPayload (category : Category) (facts : Authoritative) (data : Object) :
    Agree trustedKeys (addPayload category (trusted facts) data) (trusted facts) := by
  refine Agree.foldl fun context agree entry _ => ?_
  split
  next => exact .refl context
  next free =>
    refine .insert_other (fun member => free ?_) entry.2
    have taken := contains_trusted facts member
    rw [Mapping.contains, ← agree _ member, ← Mapping.contains] at taken
    simp [taken]

theorem agree_addTables (category : Category) (context data : Object) :
    Agree trustedKeys (addTables category context data) context := by
  unfold addTables
  split
  next => exact .insert_other (by decide) _
  next =>
    have rows : Agree trustedKeys (context.insert "items_rows"
        (.string (invoiceRows (invoiceItems data)))) context := .insert_other (by decide) _
    dsimp only
    split
    next => exact rows
    next => exact (Agree.insert_other (by decide) _).trans rows
  next => exact .refl context

/-- Defaults change nothing at keys that have them as their values. -/
theorem agree_addDefaults {keys : List String} {context : Object} {entries : List (String × Value)}
    (known : ∀ entry ∈ entries, entry.1 ∈ keys → context.get? entry.1 = some entry.2) :
    Agree keys (addDefaults context entries) context := by
  refine Agree.foldl fun result agree entry inEntries => ?_
  split
  next => exact .refl result
  next =>
    intro key member
    rw [Mapping.get?_insert]
    split
    next same =>
      subst same
      rw [agree _ member, known entry inEntries member]
    next => rfl

/-- The only trusted key with a default is the name on an ID card. -/
theorem filter_defaults (category : Category) (displayName date : String) :
    (defaults category displayName date).filter (·.1 ∈ trustedKeys) =
      if category = .idCard then [("candidate_name", .string displayName)] else [] := by
  cases category <;> rfl

theorem eq_candidate_name {category : Category} {displayName date : String}
    {entry : String × Value} (inDefaults : entry ∈ defaults category displayName date)
    (member : entry.1 ∈ trustedKeys) : entry = ("candidate_name", .string displayName) := by
  have kept : entry ∈ (defaults category displayName date).filter (·.1 ∈ trustedKeys) :=
    List.mem_filter.mpr ⟨inDefaults, decide_eq_true member⟩
  rw [filter_defaults] at kept
  split at kept
  next => exact List.mem_singleton.mp kept
  next => exact absurd kept List.not_mem_nil

/-- What data has at trusted keys are the trusted facts. -/
theorem agree_normalize (category : Category) (data : Object) (facts : Authoritative) :
    Agree trustedKeys (normalize category data facts) (trusted facts) := by
  have merged := agree_addPayload category facts data
  have complete := (agree_addTables category _ data).trans merged
  refine (agree_addDefaults fun entry inDefaults member => ?_).trans complete
  obtain rfl := eq_candidate_name inDefaults member
  rw [complete _ member, get?_trusted_candidate_name]

/-- The block of the organization has a logo exactly if there is an organization. -/
theorem exists_block (category : Category) (data : Object) (facts : Authoritative) :
    ∃ block : Object, (normalize category data facts).get? "spa" = some (.ofObject block) ∧
      (block.contains "logo" ↔ facts.organization.isSome) := by
  rw [agree_normalize category data facts "spa" (by decide), trusted]
  cases facts.organization with
  | none => exact ⟨.empty, by rw [Mapping.get?_insert, if_pos rfl]; rfl, by decide⟩
  | some organization =>
      refine ⟨_, by rw [Mapping.get?_insert, if_pos rfl], iff_of_true ?_ rfl⟩
      rw [Mapping.contains_iff, exists_entry_project]
      decide

end Context

namespace Render

open Context (trusted trustedKeys)

/-- The keys of trusted facts and of the render itself. -/
def securedKeys : List String :=
  ["config", "mode", "static_base_url"] ++ trustedKeys

/-- What a template sees at these keys: the trusted facts with their logo
resolved, and the render itself. -/
def secured (resolver : Resolver) (template : Template) (facts : Authoritative) (disk : Disk) :
    Object :=
  let (context, _) := resolveField resolver (trusted facts, .start disk) "spa_logo"
  addSurroundings resolver template (shareLogo context)

/-- The image of a field is resolved from the value of that field only. -/
theorem agree_resolveField {keys : List String} {left right : Object}
    (agree : Agree keys left right) (resolver : Resolver) (progress : Progress)
    {field : String} (member : field ∈ keys) :
    Agree keys (resolveField resolver (left, progress) field).1
      (resolveField resolver (right, progress) field).1 := by
  intro key inKeys
  simp only [resolveField, agree field member, Mapping.get?_insert, agree key inKeys]

theorem agree_resolveField_other {keys : List String} {field : String} (other : field ∉ keys)
    (resolver : Resolver) (state : Object × Progress) :
    Agree keys (resolveField resolver state field).1 state.1 :=
  .insert_other other _

/-- Images of other fields change nothing at the keys. -/
theorem agree_resolveFields {keys fields : List String} (other : ∀ field ∈ fields, field ∉ keys)
    (resolver : Resolver) (state : Object × Progress) :
    Agree keys (fields.foldl (resolveField resolver) state).1 state.1 := by
  induction fields generalizing state with
  | nil => exact .refl state.1
  | cons field rest hypothesis =>
      have restOther : ∀ field ∈ rest, field ∉ keys :=
        fun field member => other field (.tail _ member)
      exact (hypothesis restOther _).trans (agree_resolveField_other (other field (.head _)) _ _)

theorem agree_addDecorations_other {keys : List String}
    (other : ∀ field ∈ decorations, field.1 ∉ keys) (resolver : Resolver) (context : Object) :
    Agree keys (addDecorations resolver context) context := by
  refine Agree.foldl fun result _ field member => ?_
  dsimp only
  split
  next => exact .refl result
  next => exact .insert_other (other field member) _

theorem agree_shareLogo {left right : Object} (agree : Agree trustedKeys left right) :
    Agree trustedKeys (shareLogo left) (shareLogo right) := by
  have spa := agree "spa" (by decide)
  have logo := agree "spa_logo" (by decide)
  simp only [shareLogo, spa, logo]
  split
  next members _ =>
    split
    next => exact fun key member => (agree.insert "spa" _) key (.tail _ member)
    next => exact agree
  next => exact agree

theorem agree_addSurroundings {left right : Object} (agree : Agree trustedKeys left right)
    (resolver : Resolver) (template : Template) :
    Agree securedKeys (addSurroundings resolver template left)
      (addSurroundings resolver template right) :=
  ((agree.insert "static_base_url" _).insert "mode" _).insert "config" _

/-- The only image at a trusted key is the logo, which is resolved first. -/
theorem assetFields_eq (category : Category) :
    ∃ fields, category.assetFields = "spa_logo" :: fields ∧
      ∀ field ∈ fields, field ∉ trustedKeys := by
  refine ⟨Category.commonAssetFields.tail ++ category.ownAssetFields, rfl, ?_⟩
  cases category <;> decide

/-- The data of a render has at the secured keys what it has without a
payload. -/
theorem agree_buildFrom (settings : RenderSettings) (job : Job) (mode : RenderMode) (disk : Disk) :
    Agree securedKeys (buildFrom settings job mode disk).1
      (secured ⟨settings, mode, job.owner⟩ job.template job.facts disk) := by
  obtain ⟨fields, fields_eq, other⟩ := assetFields_eq job.template.category
  have normalized := Context.agree_normalize job.template.category job.data job.facts
  have isTrusted : "spa_logo" ∈ trustedKeys := by decide
  have logo := agree_resolveField normalized ⟨settings, mode, job.owner⟩ (.start disk) isTrusted
  have resolved := (agree_resolveFields other ⟨settings, mode, job.owner⟩ _).trans logo
  have notDecorative : ∀ field ∈ decorations, field.1 ∉ trustedKeys := by decide
  have decorated := (agree_addDecorations_other notDecorative ⟨settings, mode, job.owner⟩ _).trans
    resolved
  rw [buildFrom, fields_eq]
  exact agree_addSurroundings (agree_shareLogo decorated) _ _

/-- Every secured key has a value. -/
theorem contains_secured (resolver : Resolver) (template : Template) (facts : Authoritative)
    (disk : Disk) {key : String} (member : key ∈ securedKeys) :
    (secured resolver template facts disk).contains key := by
  have found : key = "config" ∨ key = "mode" ∨ key = "static_base_url" ∨ key ∈ trustedKeys := by
    simpa [securedKeys] using member
  have shared (context : Object) (present : context.contains key) :
      (shareLogo context).contains key := by
    unfold shareLogo
    split
    next =>
      split
      next => exact (Mapping.contains_insert _ _).mpr (.inr present)
      next => exact present
    next => exact present
  simp only [secured, addSurroundings, Mapping.contains_insert]
  rcases found with rfl | rfl | rfl | inTrusted
  · exact .inl rfl
  · exact .inr (.inl rfl)
  · exact .inr (.inr (.inl rfl))
  · refine .inr (.inr (.inr (shared _ ?_)))
    exact (Mapping.contains_insert _ _).mpr (.inr (Context.contains_trusted facts inTrusted))

/-- The data of a job whose template can be rendered is always built. -/
theorem buildContext_eq (job : Job) {source : String}
    (renderable : source? job.template = .ok source) (settings : RenderSettings)
    (mode : RenderMode) (machine : Print.Machine) :
    ∃ built after, buildContext settings job mode machine = (.ok built, after) ∧
      built.context = (buildFrom settings job mode machine.disk).1 := by
  simp only [buildContext, renderable]
  exact ⟨_, _, rfl, rfl⟩

/-- Two payloads give data that agree on the secured keys, all of which have a
value. -/
theorem buildContext_agree {template : Template} {source : String}
    (renderable : source? template = .ok source) (settings : RenderSettings)
    (facts : Authoritative) (owner : Uuid) (mode : RenderMode) (machine : Print.Machine)
    (first second : Object) :
    ∃ left right leftMachine rightMachine,
      buildContext settings ⟨template, first, facts, owner⟩ mode machine =
        (.ok left, leftMachine) ∧
      buildContext settings ⟨template, second, facts, owner⟩ mode machine =
        (.ok right, rightMachine) ∧
      ∀ key ∈ securedKeys,
        left.context.get? key = right.context.get? key ∧ left.context.contains key := by
  have agree (data : Object) := agree_buildFrom settings ⟨template, data, facts, owner⟩ mode
    machine.disk
  obtain ⟨left, leftMachine, leftBuilt, left_eq⟩ :=
    buildContext_eq ⟨template, first, facts, owner⟩ renderable settings mode machine
  obtain ⟨right, rightMachine, rightBuilt, right_eq⟩ :=
    buildContext_eq ⟨template, second, facts, owner⟩ renderable settings mode machine
  refine ⟨left, right, leftMachine, rightMachine, leftBuilt, rightBuilt, fun key member => ?_⟩
  rw [left_eq, right_eq]
  refine ⟨((agree first).trans (agree second).symm) key member, ?_⟩
  rw [Mapping.contains, agree first key member]
  exact contains_secured _ _ _ _ member

/-- The template of an ID card that shows one letter. -/
def plainCard : Template :=
  { (default : Template) with category := .idCard, kind := .html, htmlSource := some "x" }

/-- The payload of an ID card that claims another name and another logo. -/
theorem buildContext_agree_idCard :
    source? plainCard = .ok "x" ∧
    ∃ left right leftMachine rightMachine,
      buildContext .default ⟨plainCard, .empty, ⟨some "2024-01-01", some "A", none⟩, default⟩
        .final default = (.ok left, leftMachine) ∧
      buildContext .default ⟨plainCard,
        .ofList [("candidate_name", .string "B"), ("spa_logo", .string "b.png")],
        ⟨some "2024-01-01", some "A", none⟩, default⟩ .final default = (.ok right, rightMachine) ∧
      ∀ key ∈ securedKeys,
        left.context.get? key = right.context.get? key ∧ left.context.contains key :=
  ⟨rfl, buildContext_agree rfl .default ⟨some "2024-01-01", some "A", none⟩ default .final default
    .empty (.ofList [("candidate_name", .string "B"), ("spa_logo", .string "b.png")])⟩

end Render

end CertPress
