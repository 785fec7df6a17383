import CertPress.Proofs.Asset.Containment
import CertPress.Proofs.Render.Materialize
import CertPress.Proofs.Text.Trim

/-!
# Decorative images

The field of a decorative image shows what its reference resolves to.  The decoration
takes the place of an image that was not supplied, and also that of a supplied one
which resolves to nothing: in a final render an image that only one browser knows,
and an embedded one that cannot be read or stored.
-/

namespace CertPress

open Json (Value Object)
open Record (Category RenderMode Template)
open Settings (RenderSettings)
open Asset (Payload Progress Reference Resolver)
open Mapping (Agree)

namespace Asset

/-- The references that a final render finds no image for. -/
inductive Lost (resolver : Resolver) (field reference : String) (progress : Progress) : Prop where
  /-- Only one browser knows the image. -/
  | ephemeral {address : String} :
      Reference.classify reference = .ephemeral address →
      Lost resolver field reference progress
  /-- The image cannot be read from its address. -/
  | unread {address : String} :
      Reference.classify reference = .embedded address → Payload.ofUrl? address = none →
      Lost resolver field reference progress
  /-- The image cannot be stored. -/
  | unstored {address : String} {payload : Payload} {fault : StoreFault} {disk : Disk} :
      Reference.classify reference = .embedded address → Payload.ofUrl? address = some payload →
      Store.saveImage resolver.storeRoot payload.content resolver.owner field payload.extension
        progress.disk = (.error fault, disk) →
      Lost resolver field reference progress

/-- Only two kinds of references can be lost. -/
theorem not_lost_of_kept {resolver : Resolver} {field reference : String} {progress : Progress}
    (notEphemeral : ∀ address, Reference.classify reference ≠ .ephemeral address)
    (notEmbedded : ∀ address, Reference.classify reference ≠ .embedded address) :
    ¬ Lost resolver field reference progress := by
  intro lost
  cases lost with
  | ephemeral ephemeral => exact notEphemeral _ ephemeral
  | unread isEmbedded => exact notEmbedded _ isEmbedded
  | unstored isEmbedded => exact notEmbedded _ isEmbedded

theorem webAddress_ne_empty (settings : RenderSettings) (mount relative : String) :
    Resolver.webAddress settings mount relative ≠ "" := by
  unfold Resolver.webAddress
  dsimp only
  split
  next => simp [Url.text, Url.chars]
  next => simp

section Shown

variable {settings : RenderSettings}
  (absolute : ∀ directory ∈ directories settings, directory.isAbsolute)

include absolute

/-- A file below an absolute directory has an address. -/
theorem staticFile_ne_empty (mode : RenderMode) (owner : Uuid) (path : String) :
    (⟨settings, mode, owner⟩ : Resolver).staticFile path ≠ "" := by
  unfold Resolver.staticFile
  cases mode with
  | preview =>
      exact webAddress_ne_empty settings settings.staticMount (Text.withoutLeading '/' path)
  | final =>
      have static : settings.staticDirectory ∈ directories settings := by simp [directories]
      have names := fileNames?_join (absolute _ static) (Text.withoutLeading '/' path)
      intro empty
      dsimp only at empty
      rw [empty] at names
      cases names

theorem resolveStored_ne_empty (mode : RenderMode) (owner : Uuid) (field path : String)
    (progress : Progress) :
    ((⟨settings, mode, owner⟩ : Resolver).resolveStored field path progress).1 ≠ "" := by
  cases mode with
  | preview =>
      unfold Resolver.resolveStored
      dsimp only
      exact webAddress_ne_empty settings _ _
  | final =>
      obtain ⟨names, shown, -⟩ := resolveStored_inside_iff absolute owner field path progress
      intro empty
      rw [empty] at shown
      cases shown

theorem localize_ne_empty (mode : RenderMode) (owner : Uuid) (field : String) {address : String}
    (filled : address ≠ "") (progress : Progress) :
    ((⟨settings, mode, owner⟩ : Resolver).localize field address progress).1 ≠ "" := by
  unfold Resolver.localize
  split
  next => exact filled
  next served _ =>
    split
    next => exact staticFile_ne_empty absolute mode owner _
    next =>
      split
      next => exact resolveStored_ne_empty absolute mode owner field served progress
      next => exact filled

/-- An embedded image resolves to nothing exactly if a final render finds no image
for it. -/
theorem resolveEmbedded_eq_empty_iff (owner : Uuid) (field : String) {reference address : String}
    (embedded : Reference.classify reference = .embedded address) (progress : Progress) :
    ((⟨settings, .final, owner⟩ : Resolver).resolveEmbedded field address progress).1 = "" ↔
      Lost ⟨settings, .final, owner⟩ field reference progress := by
  unfold Resolver.resolveEmbedded
  split
  next unread => exact ⟨fun _ => .unread embedded unread, fun _ => rfl⟩
  next payload isPayload =>
    split
    next path disk saved =>
      dsimp only
      constructor
      · intro empty
        exact absurd empty (resolveStored_ne_empty absolute .final owner field path _)
      · intro lost
        cases lost with
        | ephemeral ephemeral => cases embedded.symm.trans ephemeral
        | unread isEmbedded unread =>
            cases embedded.symm.trans isEmbedded
            cases isPayload.symm.trans unread
        | unstored isEmbedded isRead failed =>
            cases embedded.symm.trans isEmbedded
            cases isPayload.symm.trans isRead
            cases saved.symm.trans failed
    next fault disk failed => exact ⟨fun _ => .unstored embedded isPayload failed, fun _ => rfl⟩

/-- A reference resolves to nothing exactly in a final render that finds no image for
it. -/
theorem resolve_eq_empty_iff (mode : RenderMode) (owner : Uuid) (field : String)
    {reference : String} (shown : Text.blank reference = false) (progress : Progress) :
    ((⟨settings, mode, owner⟩ : Resolver).resolve field reference progress).1 = "" ↔
      mode = .final ∧ Lost ⟨settings, mode, owner⟩ field reference progress := by
  have filled : (Reference.classify reference).text ≠ "" := by
    rw [Reference.text_classify]
    exact Text.trimmed_ne_empty shown
  unfold Resolver.resolve
  rw [if_neg (by simp [shown])]
  cases classified : Reference.classify reference with
  | stored path =>
      dsimp only
      have kept := resolveStored_ne_empty absolute mode owner field path progress
      refine iff_of_false kept (not_and_of_not_right _ (not_lost_of_kept ?_ ?_))
      · simp [classified]
      · simp [classified]
  | external address =>
      rw [classified] at filled
      cases mode with
      | preview => exact iff_of_false filled (by simp)
      | final =>
          have kept := localize_ne_empty absolute .final owner field filled progress
          refine iff_of_false kept (not_and_of_not_right _ (not_lost_of_kept ?_ ?_))
          · simp [classified]
          · simp [classified]
  | embedded address =>
      rw [classified] at filled
      cases mode with
      | preview => exact iff_of_false filled (by simp)
      | final =>
          dsimp only
          rw [resolveEmbedded_eq_empty_iff absolute owner field classified]
          simp
  | ephemeral address =>
      rw [classified] at filled
      cases mode with
      | preview => exact iff_of_false filled (by simp)
      | final => exact iff_of_true rfl ⟨rfl, .ephemeral classified⟩

end Shown

end Asset

namespace Render

/-! ## The context of a render -/

theorem decoration_eq (resolver : Resolver) {field path : String}
    (member : (field, path) ∈ decorations) :
    decoration resolver field = resolver.staticFile path := by
  have known : ∀ entry ∈ decorations, valueAt? entry.1 decorations = some entry.2 := by decide
  rw [decoration, known _ member]

/-- Add one decoration, unless the field holds. -/
def decorate (resolver : Resolver) (context : Object) (entry : String × String) : Object :=
  if (context.get? entry.1).any Markup.holds then context
  else context.insert entry.1 (.string (decoration resolver entry.1))

theorem addDecorations_eq (resolver : Resolver) (context : Object) :
    addDecorations resolver context = decorations.foldl (decorate resolver) context := rfl

theorem agree_decorate_other {keys : List String} {entry : String × String}
    (other : entry.1 ∉ keys) (resolver : Resolver) (context : Object) :
    Agree keys (decorate resolver context entry) context := by
  unfold decorate
  split
  next => exact .refl context
  next => exact .insert_other other _

theorem get?_decorate (resolver : Resolver) (context : Object) (entry : String × String) :
    (decorate resolver context entry).get? entry.1 =
      if (context.get? entry.1).any Markup.holds then context.get? entry.1
      else some (.string (decoration resolver entry.1)) := by
  unfold decorate
  split
  next => rfl
  next => rw [Mapping.get?_insert, if_pos rfl]

/-- Each field has one turn, and the turns of the others leave it alone. -/
theorem get?_decorateAll (resolver : Resolver) {entries : List (String × String)}
    (distinct : (entries.map (·.1)).Nodup) {entry : String × String} (member : entry ∈ entries)
    (context : Object) :
    (entries.foldl (decorate resolver) context).get? entry.1 =
      if (context.get? entry.1).any Markup.holds then context.get? entry.1
      else some (.string (decoration resolver entry.1)) := by
  induction entries generalizing context with
  | nil => exact absurd member List.not_mem_nil
  | cons first rest hypothesis =>
      obtain ⟨notLater, restDistinct⟩ := List.nodup_cons.mp distinct
      have apart : ∀ other ∈ rest, other.1 ≠ first.1 := fun other inRest same =>
        notLater (List.mem_map.mpr ⟨other, inRest, same⟩)
      rw [List.foldl_cons]
      rcases List.mem_cons.mp member with rfl | inRest
      · have kept : Agree [entry.1] (rest.foldl (decorate resolver) (decorate resolver context entry))
            (decorate resolver context entry) := by
          refine Agree.foldl fun result _ other inRest => agree_decorate_other ?_ resolver result
          intro same
          exact apart other inRest (List.mem_singleton.mp same)
        rw [kept entry.1 (List.mem_singleton_self _), get?_decorate]
      · have differ : first.1 ∉ [entry.1] := by
          intro same
          exact apart entry inRest (List.mem_singleton.mp same).symm
        rw [hypothesis restDistinct inRest,
          agree_decorate_other differ resolver context entry.1 (List.mem_singleton_self _)]

/-- A reference that shows something is resolved, and the field has the result. -/
theorem resolveField_shown (resolver : Resolver) (context : Object) (progress : Progress)
    {field : String} (shown : Text.blank (referenceIn context field) = false) :
    resolveField resolver (context, progress) field =
      (context.insert field
          (.string (resolver.resolve field (referenceIn context field) progress).1),
        (resolver.resolve field (referenceIn context field) progress).2) := by
  have notBlank : ¬ Text.blank (((context.get? field).bind Value.string?).getD "") := by
    rw [← referenceIn, shown]
    exact Bool.false_ne_true
  simp only [resolveField, if_neg notBlank, referenceIn]

/-- The progress of a render when the turn of a field comes. -/
def progressAt (resolver : Resolver) (data : Object) (fields : List String) (field : String)
    (disk : Disk) : Progress :=
  resolveAll resolver data (fields.takeWhile (· != field)) (.start disk)

/-- A field with a reference has what that resolves to when its turn comes. -/
theorem get?_resolveFields (resolver : Resolver) {data : Object} {fields : List String}
    (distinct : fields.Nodup) {field : String} (member : field ∈ fields)
    (shown : Text.blank (referenceIn data field) = false) (disk : Disk) :
    (fields.foldl (resolveField resolver) (data, .start disk)).1.get? field =
      some (.string (resolver.resolve field (referenceIn data field)
        (progressAt resolver data fields field disk)).1) := by
  obtain ⟨before, later, rfl⟩ := List.append_of_mem member
  obtain ⟨beforeDistinct, laterDistinct, apart⟩ := List.nodup_append.mp distinct
  have notBefore : field ∉ before := fun inBefore => apart field inBefore field (.head _) rfl
  have notLater : field ∉ later := (List.nodup_cons.mp laterDistinct).1
  have turns : (before ++ field :: later).takeWhile (· != field) = before := by
    rw [List.takeWhile_append_of_pos]
    · simp
    · intro other inBefore
      simp only [bne_iff_ne, ne_eq]
      rintro rfl
      exact notBefore inBefore
  have earlier : ∀ other ∈ before, other ∉ [field] := by
    intro other inBefore same
    exact notBefore (List.mem_singleton.mp same ▸ inBefore)
  have others : ∀ other ∈ later, other ∉ [field] := by
    intro other inLater same
    exact notLater (List.mem_singleton.mp same ▸ inLater)
  have inField : field ∈ [field] := List.mem_singleton_self _
  rw [progressAt, turns, ← resolveFields_eq resolver beforeDistinct, List.foldl_append,
    List.foldl_cons, agree_resolveFields others _ _ field inField]
  -- the turns before leave the reference of the field as the data has it
  have same := agree_resolveFields earlier resolver (data, .start disk) field inField
  generalize before.foldl (resolveField resolver) (data, .start disk) = state at same
  obtain ⟨context, progress⟩ := state
  have sameReference : referenceIn context field = referenceIn data field := by
    rw [referenceIn, same, referenceIn]
  rw [resolveField_shown _ _ _ (by rw [sameReference, shown]), sameReference,
    Mapping.get?_insert, if_pos rfl]

theorem agree_shareLogo_other {keys : List String} (other : "spa" ∉ keys) (context : Object) :
    Agree keys (shareLogo context) context := by
  unfold shareLogo
  split
  next =>
    split
    next => exact .insert_other other _
    next => exact .refl context
  next => exact .refl context

theorem agree_addSurroundings_other {keys : List String}
    (other : ∀ key ∈ ["config", "mode", "static_base_url"], key ∉ keys) (resolver : Resolver)
    (template : Template) (context : Object) :
    Agree keys (addSurroundings resolver template context) context := by
  have base : Agree keys (context.insert "static_base_url" (.string resolver.staticBase)) context :=
    .insert_other (other _ (by decide)) _
  have mode := (Agree.insert_other (other "mode" (by decide)) (.string resolver.mode.tag)).trans base
  exact (Agree.insert_other (other "config" (by decide)) _).trans mode

/-- The keys that a render adds to its data are no images. -/
theorem not_asset_added (category : Category) :
    ∀ key ∈ ["config", "mode", "static_base_url", "spa"], key ∉ category.assetFields := by
  cases category <;> decide

theorem spa_logo_mem_assetFields (category : Category) : "spa_logo" ∈ category.assetFields :=
  List.mem_append_left _ (.head _)

/-- The block of the organization gets the logo of the data, if it has one. -/
theorem get?_shareLogo {context block : Object}
    (isBlock : context.get? "spa" = some (.ofObject block)) :
    (shareLogo context).get? "spa" = some (.ofObject
      (if block.contains "logo" then block.insert "logo" ((context.get? "spa_logo").getD .null)
        else block)) := by
  have hasLogo : (valueAt? "logo" block.entries).isSome = block.contains "logo" := rfl
  simp only [shareLogo, isBlock, Value.ofObject, hasLogo]
  split
  next =>
    rw [Mapping.get?_insert, if_pos rfl]
    rfl
  next => exact isBlock

/-- The data of a render has the block of the organization from the trusted facts, with its own
logo. -/
theorem exists_block_buildFrom (job : Job) :
    ∃ block : Object, (block.contains "logo" ↔ job.facts.organization.isSome) ∧
      ∀ settings mode disk, (buildFrom settings job mode disk).1.get? "spa" =
        some (.ofObject (if block.contains "logo" then
          block.insert "logo" (((buildFrom settings job mode disk).1.get? "spa_logo").getD .null)
          else block)) := by
  obtain ⟨block, isBlock, hasLogo⟩ :=
    Context.exists_block job.template.category job.data job.facts
  refine ⟨block, hasLogo, fun settings mode disk => ?_⟩
  have notAsset : ∀ field ∈ job.template.category.assetFields, field ∉ ["spa"] := by
    intro field isAsset same
    exact not_asset_added _ "spa" (by decide) (List.mem_singleton.mp same ▸ isAsset)
  have notDecorative : ∀ entry ∈ decorations, entry.1 ∉ ["spa"] := by decide
  have notAdded : ∀ key ∈ ["config", "mode", "static_base_url"], key ∉ ["spa", "spa_logo"] := by
    decide
  have decorated := ((agree_addDecorations_other notDecorative ⟨settings, mode, job.owner⟩ _).trans
    (agree_resolveFields notAsset ⟨settings, mode, job.owner⟩
      (Context.normalize job.template.category job.data job.facts, .start disk))) "spa"
        (List.mem_singleton_self _)
  rw [isBlock] at decorated
  unfold buildFrom
  dsimp only
  rw [agree_addSurroundings_other notAdded _ _ _ "spa" (by decide),
    agree_addSurroundings_other notAdded _ _ _ "spa_logo" (by decide), get?_shareLogo decorated,
    agree_shareLogo_other (by decide) _ "spa_logo" (List.mem_singleton_self _)]

/-- The keys of decorations are free for a payload, and nothing else of a render writes
them. -/
theorem free_decorations (category : Category) : ∀ entry ∈ decorations,
    entry.1 ∉ Context.trustedKeys ∧ entry.1 ∉ Context.tableKeys ∧
    entry.1 ∉ category.excludedFields ∧ "spa" ∉ [entry.1] ∧
    ∀ key ∈ ["config", "mode", "static_base_url"], key ∉ [entry.1] := by
  cases category <;> decide

/-- The reference in the payload decides what the field of a decorative image shows. -/
theorem get?_buildFrom (settings : RenderSettings) (job : Job) (mode : RenderMode) (disk : Disk)
    {field path reference : String} (decorative : (field, path) ∈ decorations)
    (isAsset : field ∈ job.template.category.assetFields)
    (supplied : job.data.get? field = some (.string reference))
    (shown : Text.blank reference = false) {address : String}
    (resolved : ((⟨settings, mode, job.owner⟩ : Resolver).resolve field reference
      (progressAt ⟨settings, mode, job.owner⟩
        (Context.normalize job.template.category job.data job.facts)
        job.template.category.assetFields field disk)).1 = address) :
    (buildFrom settings job mode disk).1.get? field = some (.string
      (if address = "" then (⟨settings, mode, job.owner⟩ : Resolver).staticFile path
      else address)) := by
  obtain ⟨notTrusted, notTable, reaches, notSpa, notSurrounding⟩ :=
    free_decorations job.template.category _ decorative
  have isHeld : Markup.holds (.string reference) := by
    have filled : reference ≠ "" := by
      rintro rfl
      simp [Text.blank, Text.allBlank] at shown
    simpa [Markup.holds] using filled
  have normalized := Context.get?_normalize supplied isHeld notTrusted reaches notTable job.facts
  have isReference : referenceIn
      (Context.normalize job.template.category job.data job.facts) field = reference := by
    rw [referenceIn, normalized]
    rfl
  have inContext := get?_resolveFields ⟨settings, mode, job.owner⟩
    (nodup_assetFields job.template.category) isAsset (by rw [isReference, shown]) disk
  rw [isReference, resolved] at inContext
  have inField : field ∈ [field] := List.mem_singleton_self _
  rw [buildFrom]
  dsimp only
  rw [agree_addSurroundings_other notSurrounding _ _ _ field inField,
    agree_shareLogo_other notSpa _ field inField, addDecorations_eq,
    get?_decorateAll _ (by decide) decorative, decoration_eq _ decorative, inContext]
  by_cases empty : address = ""
  · have notHeld : ¬ (some (Value.string address)).any Markup.holds := by simp [empty, Markup.holds]
    rw [if_pos empty, if_neg notHeld]
  · have holds : (some (Value.string address)).any Markup.holds := by simpa [Markup.holds] using empty
    rw [if_neg empty, if_pos holds]

/-- The field of a decorative image has what the reference in the payload resolves to
when its turn comes.  The decoration takes the place of the empty text, to which a
reference resolves in a final render that finds no image for it, and only then. -/
theorem buildContext_supplied {job : Job} {source : String}
    (renderable : source? job.template = .ok source) {settings : RenderSettings}
    (absolute : ∀ directory ∈ Asset.directories settings, directory.isAbsolute)
    (mode : RenderMode) (machine : Print.Machine) {field path reference : String}
    (decorative : (field, path) ∈ decorations) (isAsset : field ∈ job.template.category.assetFields)
    (supplied : job.data.get? field = some (.string reference))
    (shown : Text.blank reference = false) :
    let resolver : Resolver := ⟨settings, mode, job.owner⟩
    let progress := progressAt resolver
      (Context.normalize job.template.category job.data job.facts)
      job.template.category.assetFields field machine.disk
    let address := (resolver.resolve field reference progress).1
    (∃ built after, buildContext settings job mode machine = (.ok built, after) ∧
      built.context.get? field =
        some (.string (if address = "" then resolver.staticFile path else address))) ∧
    (address = "" ↔ mode = .final ∧ Asset.Lost resolver field reference progress) := by
  intro resolver progress address
  constructor
  · obtain ⟨built, after, isBuilt, context_eq⟩ :=
      buildContext_eq job renderable settings mode machine
    refine ⟨built, after, isBuilt, ?_⟩
    rw [context_eq]
    exact get?_buildFrom settings job mode machine.disk decorative isAsset supplied shown rfl
  · exact Asset.resolve_eq_empty_iff absolute mode job.owner field shown progress

/-- An ID card with an image for its stamp that only one browser knows. -/
def stampedCard : Job :=
  ⟨plainCard, .ofList [("certificate_stamp_image", .string "blob:x")], ⟨none, none, none⟩, default⟩

/-- The case of the stamp in that browser. -/
theorem buildContext_supplied_preview :
    source? stampedCard.template = .ok "x" ∧
    (∀ directory ∈ Asset.directories Asset.rootedSettings, directory.isAbsolute) ∧
    ("certificate_stamp_image", "images/certificate-stamp.png") ∈ decorations ∧
    "certificate_stamp_image" ∈ stampedCard.template.category.assetFields ∧
    stampedCard.data.get? "certificate_stamp_image" = some (.string "blob:x") ∧
    Text.blank "blob:x" = false ∧
    ∃ built after, buildContext Asset.rootedSettings stampedCard .preview default =
        (.ok built, after) ∧
      built.context.get? "certificate_stamp_image" = some (.string "blob:x") := by
  have renderable : source? stampedCard.template = .ok "x" := rfl
  have absolute : ∀ directory ∈ Asset.directories Asset.rootedSettings, directory.isAbsolute := by
    decide
  have decorative : ("certificate_stamp_image", "images/certificate-stamp.png") ∈ decorations := by
    decide
  have isAsset : "certificate_stamp_image" ∈ stampedCard.template.category.assetFields := by
    decide
  have supplied : stampedCard.data.get? "certificate_stamp_image" = some (.string "blob:x") := rfl
  have shown : Text.blank "blob:x" = false := by decide
  have kept : ∀ progress, ((⟨Asset.rootedSettings, .preview, stampedCard.owner⟩ : Resolver).resolve
      "certificate_stamp_image" "blob:x" progress).1 = "blob:x" := fun _ => rfl
  obtain ⟨⟨built, after, isBuilt, field_eq⟩, -⟩ := buildContext_supplied renderable absolute
    .preview default decorative isAsset supplied shown
  refine ⟨renderable, absolute, decorative, isAsset, supplied, shown, built, after, isBuilt, ?_⟩
  rw [field_eq, kept, if_neg (by decide)]

/-- In a final render the decoration takes the place of the image that was supplied. -/
theorem buildContext_replaced :
    source? stampedCard.template = .ok "x" ∧
    stampedCard.data.get? "certificate_stamp_image" = some (.string "blob:x") ∧
    Text.blank "blob:x" = false ∧
    (∀ progress, ((⟨Asset.rootedSettings, .final, default⟩ : Resolver).resolve
      "certificate_stamp_image" "blob:x" progress).1 = "") ∧
    ∃ built after, buildContext Asset.rootedSettings stampedCard .final default =
        (.ok built, after) ∧
      built.context.get? "certificate_stamp_image" =
        some (.string "file:///srv/static/images/certificate-stamp.png") := by
  have decorative : ("certificate_stamp_image", "images/certificate-stamp.png") ∈ decorations := by
    decide
  have empty : ∀ progress, ((⟨Asset.rootedSettings, .final, default⟩ : Resolver).resolve
      "certificate_stamp_image" "blob:x" progress).1 = "" := fun _ => rfl
  have static : (⟨Asset.rootedSettings, .final, default⟩ : Resolver).staticFile
      "images/certificate-stamp.png" = "file:///srv/static/images/certificate-stamp.png" := by
    decide
  obtain ⟨built, after, isBuilt, context_eq⟩ :=
    buildContext_eq stampedCard rfl Asset.rootedSettings .final default
  have field_eq := get?_buildFrom Asset.rootedSettings stampedCard .final default
    decorative (by decide) rfl (by decide) (empty _)
  rw [if_pos rfl] at field_eq
  refine ⟨rfl, rfl, by decide, empty, built, after, isBuilt, ?_⟩
  rw [context_eq]
  exact field_eq.trans (congrArg (some ∘ Value.string) static)

end Render

end CertPress
