import CertPress.Proofs.Render.Decoration
import CertPress.Proofs.Text.Ascii

/-!
# Addresses that a backend can read

In the data of a final render every image has an address that the program which makes the
PDF can read: that of a file or of a web page.  Where no image was found the address is
empty.  The block of the organization has the same logo as the data itself.
-/

namespace CertPress

open Json (Value Object)
open Record (Authoritative Category Organization Template)
open Settings (RenderSettings)
open Asset (Progress Reference Resolver)
open Mapping (Agree)

namespace Asset

/-- The starts of addresses that a backend can read. -/
def readableStarts : List String := ["file://", "http://", "https://"]

/-- An address that a backend can read, or that it has nothing to read at. -/
inductive Readable (address : String) : Prop where
  | empty : address = "" → Readable address
  | located {start : String} :
      start ∈ readableStarts → Reference.startsAs start address → Readable address

/-- Blanks around a text do not count for its start. -/
theorem Reference.startsAs_trimmed {start text : String} (filled : start.toList ≠ [])
    (shown : ∀ char ∈ start.toList, Text.isBlank char = false) (starts : startsAs start text) :
    startsAs start (Text.trimmed text) := by
  rw [startsAs, List.isPrefixOf_iff_prefix, Text.lowerAscii, String.toList_ofList] at starts ⊢
  obtain ⟨rest, whole⟩ := starts
  obtain ⟨front, others, chars, front_eq, -⟩ := List.map_eq_append_iff.mp whole.symm
  have frontShown : ∀ char ∈ front, Text.isBlank char = false := by
    intro char member
    exact Text.isBlank_eq_false_of_toLower
      (shown _ (front_eq ▸ List.mem_map_of_mem (f := Char.toLower) member))
  have frontFilled : front ≠ [] := by
    rintro rfl
    exact filled front_eq.symm
  have kept := Text.prefix_trim frontFilled frontShown ⟨others, chars.symm⟩
  rw [← front_eq, Text.trimmed, String.toList_ofList]
  exact kept.map Char.toLower

/-- A text does not have two starts, unless one of them starts with the other. -/
theorem Reference.startsAs_eq_false {start other text : String} (starts : startsAs start text)
    (shorter : other.toList.length ≤ start.toList.length)
    (differ : ¬ other.toList <+: start.toList) : startsAs other text = false := by
  rw [Bool.eq_false_iff]
  intro otherStarts
  rw [startsAs, List.isPrefixOf_iff_prefix] at starts otherStarts
  exact differ (List.prefix_of_prefix_length_le otherStarts starts shorter)

/-- What a backend can read is no image itself, no path and no address of a browser. -/
theorem Readable.external {address : String} (readable : Readable address)
    (filled : address ≠ "") : Reference.classify address = .external (Text.trimmed address) := by
  rcases readable with empty | @⟨start, isStart, starts⟩
  · exact absurd empty filled
  have known : ∀ start ∈ readableStarts, start.toList ≠ [] ∧
      start.toList.all (fun char => !Text.isBlank char) ∧
      ∀ other ∈ ["data:", "blob:"], other.toList.length ≤ start.toList.length ∧
        ¬ other.toList <+: start.toList := by decide
  obtain ⟨startFilled, allShown, others⟩ := known start isStart
  have shown : ∀ char ∈ start.toList, Text.isBlank char = false := by
    simpa only [List.all_eq_true, Bool.not_eq_true'] using allShown
  have trimmed := Reference.startsAs_trimmed startFilled shown starts
  have apart : ∀ other ∈ ["data:", "blob:"],
      Reference.startsAs other (Text.trimmed address) = false := fun other member =>
    Reference.startsAs_eq_false trimmed (others other member).1 (others other member).2
  have external : (Reference.startsAs "http://" (Text.trimmed address) ||
      Reference.startsAs "https://" (Text.trimmed address) ||
      Reference.startsAs "file://" (Text.trimmed address)) = true := by
    simp only [readableStarts, List.mem_cons, List.not_mem_nil, or_false] at isStart
    rcases isStart with rfl | rfl | rfl
    · simp [trimmed]
    · simp [trimmed]
    · simp [trimmed]
  rw [Reference.classify]
  simp only [apart "data:" (by decide), apart "blob:" (by decide), external, if_true,
    Bool.false_eq_true, if_false]

/-! ## References of a final render -/

theorem readable_of_external {reference address : String}
    (external : Reference.classify reference = .external address) : Readable address := by
  have trimmed : address = Text.trimmed reference := by
    have text := Reference.text_classify reference
    rwa [external] at text
  unfold Reference.classify at external
  dsimp only at external
  split at external
  next => cases external
  next =>
    split at external
    next => cases external
    next =>
      split at external
      next starts =>
        rw [← trimmed] at starts
        simp only [Bool.or_eq_true] at starts
        rcases starts with (http | https) | file
        · exact .located (by decide) http
        · exact .located (by decide) https
        · exact .located (by decide) file
      next => cases external

theorem readable_fileUrl? (path : FilePath) : Readable (path.fileUrl?.getD "") := by
  unfold FilePath.fileUrl?
  split
  next => exact .located (.head _) (Reference.startsAs_append (by decide) _)
  next => exact .empty rfl

section Final

variable (settings : RenderSettings) (owner : Uuid)

theorem readable_staticFile (path : String) :
    Readable ((⟨settings, .final, owner⟩ : Resolver).staticFile path) := by
  unfold Resolver.staticFile
  exact readable_fileUrl? _

theorem readable_resolveStored (field path : String) (progress : Progress) :
    Readable ((⟨settings, .final, owner⟩ : Resolver).resolveStored field path progress).1 := by
  obtain ⟨_, _, -, -, result⟩ := resolveStored_final settings owner field path progress
  rw [result]
  exact readable_fileUrl? _

theorem readable_resolveEmbedded (field address : String) (progress : Progress) :
    Readable ((⟨settings, .final, owner⟩ : Resolver).resolveEmbedded field address progress).1 := by
  unfold Resolver.resolveEmbedded
  split
  next => exact .empty rfl
  next =>
    split
    next path disk _ =>
      dsimp only
      exact readable_resolveStored settings owner field path _
    next => exact .empty rfl

theorem readable_localize (field : String) {address : String} (readable : Readable address)
    (progress : Progress) :
    Readable ((⟨settings, .final, owner⟩ : Resolver).localize field address progress).1 := by
  unfold Resolver.localize
  split
  next => exact readable
  next served _ =>
    split
    next relative _ =>
      dsimp only
      exact readable_staticFile settings owner relative
    next =>
      split
      next => exact readable_resolveStored settings owner field served progress
      next => exact readable

/-- Whatever a reference is, a backend can read what it resolves to. -/
theorem readable_resolve (field reference : String) (progress : Progress) :
    Readable ((⟨settings, .final, owner⟩ : Resolver).resolve field reference progress).1 := by
  unfold Resolver.resolve
  split
  next => exact .empty rfl
  next =>
    cases classified : Reference.classify reference with
    | stored path => exact readable_resolveStored settings owner field path progress
    | embedded address => exact readable_resolveEmbedded settings owner field address progress
    | external address =>
        exact readable_localize settings owner field (readable_of_external classified) progress
    | ephemeral => exact .empty rfl

end Final

end Asset

namespace Render

open Asset (Readable)

/-! ## The data of a final render -/

/-- The data has a readable address at a key. -/
def ReadableAt (context : Object) (key : String) : Prop :=
  ∃ address, context.get? key = some (.string address) ∧ Readable address

/-- A readable address takes the place of another one. -/
theorem ReadableAt.insert {context : Object} {key added address : String}
    (known : key = added ∨ ReadableAt context key) (readable : Readable address) :
    ReadableAt (context.insert added (.string address)) key := by
  rw [ReadableAt, Mapping.get?_insert]
  split
  next => exact ⟨address, rfl, readable⟩
  next other => exact known.resolve_left (Ne.symm other)

theorem ReadableAt.of_agree {left right : Object} {key : String} (agree : Agree [key] left right)
    (readableAt : ReadableAt right key) : ReadableAt left key := by
  rwa [ReadableAt, agree key (List.mem_singleton_self key)]

section Final

variable (settings : RenderSettings) (owner : Uuid)

theorem readable_decoration (field : String) :
    Readable (decoration ⟨settings, .final, owner⟩ field) := by
  unfold decoration
  split
  next path _ => exact Asset.readable_staticFile settings owner path
  next => exact .empty rfl

theorem readableAt_resolveField {context : Object} (progress : Progress) {field key : String}
    (known : key = field ∨ ReadableAt context key) :
    ReadableAt (resolveField ⟨settings, .final, owner⟩ (context, progress) field).1 key := by
  unfold resolveField
  dsimp only
  split
  next => exact .insert known (readable_decoration settings owner field)
  next => exact .insert known (Asset.readable_resolve settings owner field _ progress)

/-- Every field has a readable address once it had its turn. -/
theorem readableAt_resolveFields (fields : List String) {state : Object × Progress} {key : String}
    (known : key ∈ fields ∨ ReadableAt state.1 key) :
    ReadableAt (fields.foldl (resolveField ⟨settings, .final, owner⟩) state).1 key := by
  induction fields generalizing state with
  | nil => exact known.resolve_left List.not_mem_nil
  | cons field rest hypothesis =>
      rw [List.mem_cons, or_assoc] at known
      refine hypothesis ?_
      rcases known with same | inRest | already
      · exact .inr (readableAt_resolveField settings owner state.2 (.inl same))
      · exact .inl inRest
      · exact .inr (readableAt_resolveField settings owner state.2 (.inr already))

theorem readableAt_addDecorations {context : Object} {key : String}
    (readableAt : ReadableAt context key) :
    ReadableAt (addDecorations ⟨settings, .final, owner⟩ context) key := by
  rw [addDecorations_eq]
  refine List.foldlRecOn (motive := (ReadableAt · key)) decorations _ readableAt ?_
  intro result already entry _
  unfold decorate
  split
  next => exact already
  next => exact .insert (.inr already) (readable_decoration settings owner entry.1)

end Final

theorem readableAt_buildFrom (settings : RenderSettings) (job : Job) (disk : Disk) {field : String}
    (isAsset : field ∈ job.template.category.assetFields) :
    ReadableAt (buildFrom settings job .final disk).1 field := by
  have apart : ∀ key ∈ ["config", "mode", "static_base_url", "spa"], key ∉ [field] := by
    intro key member same
    exact not_asset_added _ key member (List.mem_singleton.mp same ▸ isAsset)
  have surroundings : ∀ key ∈ ["config", "mode", "static_base_url"], key ∉ [field] :=
    fun key member => apart key (List.mem_append_left ["spa"] member)
  have resolved : ReadableAt (job.template.category.assetFields.foldl
      (resolveField ⟨settings, .final, job.owner⟩)
      (Context.normalize job.template.category job.data job.facts, .start disk)).1 field :=
    readableAt_resolveFields settings job.owner _ (.inl isAsset)
  have decorated := readableAt_addDecorations settings job.owner resolved
  rw [buildFrom]
  exact .of_agree (agree_addSurroundings_other surroundings _ _ _)
    (.of_agree (agree_shareLogo_other (apart "spa" (by decide)) _) decorated)

/-- The block of an organization has the logo that the data itself has. -/
theorem shared_buildFrom (settings : RenderSettings) (job : Job) (mode : Record.RenderMode)
    (disk : Disk) {logo : Value}
    (isLogo : (buildFrom settings job mode disk).1.get? "spa_logo" = some logo)
    (organized : job.facts.organization.isSome) :
    ∃ block, (buildFrom settings job mode disk).1.get? "spa" = some block ∧
      block.member? "logo" = some logo := by
  obtain ⟨before, hasLogo, isBlock⟩ := exists_block_buildFrom job
  refine ⟨_, isBlock settings mode disk, ?_⟩
  rw [if_pos (hasLogo.mpr organized), isLogo, Option.getD_some]
  exact (Mapping.get?_insert _ _ _ _).trans (if_pos rfl)

/-- In the data of a final render every image is empty or at an address that a backend can
read, and the block of an organization has the same logo as the data. -/
theorem buildContext_readable {job : Job} {source : String}
    (renderable : source? job.template = .ok source) (settings : RenderSettings)
    (machine : Print.Machine) :
    ∃ built after, buildContext settings job .final machine = (.ok built, after) ∧
      (∀ field ∈ job.template.category.assetFields, ∃ address,
        built.context.get? field = some (.string address) ∧ Readable address ∧
        (address = "" ∨ Reference.classify address = .external (Text.trimmed address))) ∧
      (job.facts.organization.isSome → ∃ block logo,
        built.context.get? "spa" = some block ∧ block.member? "logo" = some logo ∧
        built.context.get? "spa_logo" = some logo) := by
  obtain ⟨built, after, isBuilt, context_eq⟩ :=
    buildContext_eq job renderable settings .final machine
  refine ⟨built, after, isBuilt, ?_⟩
  rw [context_eq]
  refine ⟨fun field isAsset => ?_, fun organized => ?_⟩
  · obtain ⟨address, isAddress, readable⟩ := readableAt_buildFrom settings job machine.disk isAsset
    exact ⟨address, isAddress, readable, or_iff_not_imp_left.mpr readable.external⟩
  · obtain ⟨logo, isLogo, -⟩ := readableAt_buildFrom settings job machine.disk
      (spa_logo_mem_assetFields job.template.category)
    obtain ⟨block, isBlock, member⟩ :=
      shared_buildFrom settings job .final machine.disk isLogo organized
    exact ⟨block, .string logo, isBlock, member, isLogo⟩

/-- A card of an organization with a logo below the primary root, and with an image that only
one browser knows. -/
def branchCard : Job :=
  ⟨plainCard, .ofList [("candidate_photo", .string "blob:x")],
    ⟨none, none, some { (default : Organization) with logo := "a.png" }⟩, default⟩

/-- The case of this card. -/
theorem buildContext_readable_branchCard :
    source? branchCard.template = .ok "x" ∧ branchCard.facts.organization.isSome ∧
    ∃ built after, buildContext Asset.rootedSettings branchCard .final default =
        (.ok built, after) ∧
      (∀ field ∈ branchCard.template.category.assetFields, ∃ address,
        built.context.get? field = some (.string address) ∧ Readable address ∧
        (address = "" ∨ Reference.classify address = .external (Text.trimmed address))) ∧
      ∃ block logo, built.context.get? "spa" = some block ∧ block.member? "logo" = some logo ∧
        built.context.get? "spa_logo" = some logo := by
  have renderable : source? branchCard.template = .ok "x" := rfl
  have organized : branchCard.facts.organization.isSome := rfl
  obtain ⟨built, after, isBuilt, readable, shared⟩ :=
    buildContext_readable renderable Asset.rootedSettings default
  exact ⟨renderable, organized, built, after, isBuilt, readable, shared organized⟩

end Render

end CertPress
