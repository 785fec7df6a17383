import CertPress.Proofs.Markup.Paths
import CertPress.Proofs.Render.Decoration
import CertPress.Proofs.Render.Outcome

/-!
# A preview and a final render of one job

The mode of a render decides which addresses its data has, and nothing else.  The data of
a preview and of a final render from the same state have the same keys, and they differ
only at the images, at the logo in the block of the organization, at the address of the
static directory and at the mode itself.  A template that mentions none of these gives the
same page, unless it shows the block as a whole: that is shown with its logo.
-/

namespace CertPress.Render

open Json (Value Object)
open Record (Authoritative Category Organization RenderMode)
open Settings (RenderSettings)
open Asset (Progress Resolver)
open Mapping (Alike)

/-- The keys at which the data of a render depends on its mode, apart from the block of the
organization. -/
def modeKeys (category : Category) : List String :=
  category.assetFields ++ decorations.map (·.1) ++ ["static_base_url", "mode"]

section Stages

variable {hidden : List String} {left right : Object} (alike : Alike hidden left right)
  (first second : Resolver)

include alike

theorem alike_resolveField {field : String} (isHidden : field ∈ hidden)
    (leftProgress rightProgress : Progress) :
    Alike hidden (resolveField first (left, leftProgress) field).1
      (resolveField second (right, rightProgress) field).1 :=
  alike.insert (.inl isHidden)

theorem alike_decorate {entry : String × String} (isHidden : entry.1 ∈ hidden) :
    Alike hidden (decorate first left entry) (decorate second right entry) where
  contains key := by
    have contains_decorate (resolver : Resolver) (context : Object) :
        (decorate resolver context entry).contains key ↔
          entry.1 = key ∨ context.contains key := by
      unfold decorate
      split
      next holds =>
        refine ⟨.inr, fun known => known.elim (fun same => ?_) id⟩
        rw [← same, Mapping.contains]
        exact Option.isSome_of_any holds
      next => exact Mapping.contains_insert _ _
    rw [contains_decorate, contains_decorate, alike.contains]
  values key visible := by
    have other : entry.1 ∉ [key] :=
      fun same => visible (List.mem_singleton.mp same ▸ isHidden)
    have inKey : key ∈ [key] := List.mem_singleton_self key
    rw [agree_decorate_other other first left key inKey,
      agree_decorate_other other second right key inKey, alike.values key visible]

end Stages

/-- Fields may have any images. -/
theorem alike_resolveFields {hidden fields : List String}
    (isHidden : ∀ field ∈ fields, field ∈ hidden) (first second : Resolver) {left right : Object}
    (alike : Alike hidden left right) (leftProgress rightProgress : Progress) :
    Alike hidden (fields.foldl (resolveField first) (left, leftProgress)).1
      (fields.foldl (resolveField second) (right, rightProgress)).1 := by
  induction fields generalizing left right leftProgress rightProgress with
  | nil => exact alike
  | cons field rest hypothesis =>
      have step := alike_resolveField alike first second (isHidden field (.head _)) leftProgress
        rightProgress
      exact hypothesis (fun other member => isHidden other (.tail _ member)) step _ _

theorem alike_addDecorations {hidden : List String} {left right : Object}
    (alike : Alike hidden left right) (isHidden : ∀ entry ∈ decorations, entry.1 ∈ hidden)
    (first second : Resolver) :
    Alike hidden (addDecorations first left) (addDecorations second right) := by
  rw [addDecorations_eq, addDecorations_eq]
  generalize decorations = entries at isHidden
  induction entries generalizing left right with
  | nil => exact alike
  | cons entry rest hypothesis =>
      have step := alike_decorate alike first second (isHidden entry (.head _))
      exact hypothesis step fun other member => isHidden other (.tail _ member)

theorem alike_shareLogo {hidden : List String} {left right : Object}
    (alike : Alike hidden left right) (isHidden : "spa" ∈ hidden) :
    Alike hidden (shareLogo left) (shareLogo right) where
  contains key := by
    have contains_shareLogo (context : Object) :
        (shareLogo context).contains key ↔ context.contains key := by
      unfold shareLogo
      split
      next members block =>
        split
        next =>
          rw [Mapping.contains_insert]
          refine ⟨fun known => known.elim (fun same => ?_) id, .inr⟩
          rw [← same, Mapping.contains, block]
          rfl
        next => rfl
      next => rfl
    rw [contains_shareLogo, contains_shareLogo, alike.contains]
  values key visible := by
    have other : "spa" ∉ [key] :=
      fun same => visible (List.mem_singleton.mp same ▸ isHidden)
    have inKey : key ∈ [key] := List.mem_singleton_self key
    rw [agree_shareLogo_other other left key inKey, agree_shareLogo_other other right key inKey,
      alike.values key visible]

/-- The data of two renders of a job from one state. -/
theorem alike_buildFrom (settings : RenderSettings) (job : Job) (first second : RenderMode)
    (disk : Disk) :
    Alike ("spa" :: modeKeys job.template.category) (buildFrom settings job first disk).1
      (buildFrom settings job second disk).1 := by
  generalize isKeys : "spa" :: modeKeys job.template.category = hidden
  have assets : ∀ field ∈ job.template.category.assetFields, field ∈ hidden := by
    intro field isAsset
    simp [← isKeys, modeKeys, isAsset]
  have decorative : ∀ entry ∈ decorations, entry.1 ∈ hidden := by
    rintro ⟨field, path⟩ member
    simp only [← isKeys, modeKeys, List.mem_cons, List.mem_append, List.mem_map]
    exact .inr (.inl (.inr ⟨_, member, rfl⟩))
  have own : ∀ key ∈ ["static_base_url", "mode"], key ∈ hidden := by
    intro key member
    rw [← isKeys, modeKeys]
    exact .tail _ (List.mem_append_right _ member)
  have spa : "spa" ∈ hidden := isKeys ▸ .head _
  have resolved := alike_resolveFields assets ⟨settings, first, job.owner⟩
    ⟨settings, second, job.owner⟩ (.refl hidden (Context.normalize job.template.category job.data
      job.facts)) (.start disk) (.start disk)
  have decorated := alike_addDecorations resolved decorative ⟨settings, first, job.owner⟩
    ⟨settings, second, job.owner⟩
  rw [buildFrom, buildFrom]
  unfold addSurroundings
  refine ((Alike.insert ?_ (.inl (own "static_base_url" (by decide)))).insert
    (.inl (own "mode" (by decide)))).insert (.inr rfl)
  exact alike_shareLogo decorated spa

/-- A block with another logo. -/
theorem alike_shared (block : Object) (left right : Value) :
    Alike ["logo"] (if block.contains "logo" then block.insert "logo" left else block)
      (if block.contains "logo" then block.insert "logo" right else block) := by
  split
  next => exact (Alike.refl ["logo"] block).insert (.inl (.head _))
  next => exact .refl ["logo"] block

/-- The parts of the data that depend on the mode of a render. -/
def modeParts (category : Category) : List (List String) :=
  ["spa", "logo"] :: (modeKeys category).map ([·])

/-- What is filled in depends on the source and on what it mentions. -/
theorem fill_congr {left right : BuiltContext} (sameSource : left.source = right.source)
    (same : ∀ nodes, Markup.parse left.source = .ok nodes →
      Markup.Node.renderAll (.ofObject left.context) nodes =
        Markup.Node.renderAll (.ofObject right.context) nodes) :
    fill left = fill right := by
  simp only [fill, Markup.render, ← sameSource]
  cases parsed : Markup.parse left.source with
  | error fault => rfl
  | ok nodes => simp only [Except.map, same nodes parsed]

/-- Building the data of a job fails in both modes with the same fault, or in neither.  The data
then have the same keys, and they differ only at the parts that depend on the mode.  A
template that mentions none of these, and that does not show the block of the organization as
a whole where the logo in it differs, gives the same page. -/
theorem buildContext_modes (settings : RenderSettings) (job : Job) (machine : Print.Machine) :
    (∃ fault, buildContext settings job .preview machine = (.error fault, machine) ∧
      buildContext settings job .final machine = (.error fault, machine)) ∨
    ∃ shown kept shownMachine keptMachine, ∃ shownBlock keptBlock : Object,
      buildContext settings job .preview machine = (.ok shown, shownMachine) ∧
      buildContext settings job .final machine = (.ok kept, keptMachine) ∧
      Alike ("spa" :: modeKeys job.template.category) shown.context kept.context ∧
      shown.context.get? "spa" = some (.ofObject shownBlock) ∧
      kept.context.get? "spa" = some (.ofObject keptBlock) ∧
      Alike ["logo"] shownBlock keptBlock ∧
      (job.facts.organization = none → shownBlock = keptBlock) ∧
      ((∀ nodes, Markup.parse shown.source = .ok nodes →
          (∀ part ∈ modeParts job.template.category, ¬ Markup.Mentions nodes part) ∧
          (Markup.ShowsWhole nodes ["spa"] → shownBlock = keptBlock)) →
        fill shown = fill kept) := by
  cases renderable : source? job.template with
  | error fault =>
      exact .inl ⟨fault, buildContext_of_source? renderable settings .preview machine,
        buildContext_of_source? renderable settings .final machine⟩
  | ok source =>
      obtain ⟨shown, shownMachine, isShown, shown_eq⟩ :=
        buildContext_eq job renderable settings .preview machine
      obtain ⟨kept, keptMachine, isKept, kept_eq⟩ :=
        buildContext_eq job renderable settings .final machine
      have alike := alike_buildFrom settings job .preview .final machine.disk
      obtain ⟨block, hasLogo, isBlock⟩ := exists_block_buildFrom job
      have shownBlock := isBlock settings .preview machine.disk
      have keptBlock := isBlock settings .final machine.disk
      rw [← shown_eq] at alike shownBlock
      rw [← kept_eq] at alike keptBlock
      have sameSource : shown.source = kept.source := by
        have sources := (buildContext_eq_ok isShown).1.symm.trans (buildContext_eq_ok isKept).1
        exact Except.ok.inj sources
      have alikeBlock := alike_shared block
        ((shown.context.get? "spa_logo").getD .null) ((kept.context.get? "spa_logo").getD .null)
      refine .inr ⟨shown, kept, shownMachine, keptMachine, _, _, isShown, isKept, alike, shownBlock,
        keptBlock, alikeBlock, fun none => ?_, fun plain => ?_⟩
      · have noLogo : ¬ block.contains "logo" := by simp [hasLogo, none]
        rw [if_neg noLogo, if_neg noLogo]
      · refine fill_congr sameSource fun nodes parsed => ?_
        obtain ⟨visible, whole⟩ := plain nodes parsed
        exact Markup.renderAll_alike alike shownBlock keptBlock alikeBlock
          (fun key isKey => visible [key] (.tail _ (List.mem_map.mpr ⟨key, isKey, rfl⟩)))
          (visible _ (.head _)) whole

/-- The template of a card that shows the block of the organization as a whole, and the facts of
an organization with a logo below the primary root. -/
def blockCard : Job :=
  { (default : Job) with
    template := { (default : Record.Template) with
      category := .idCard, kind := .html, htmlSource := some "\x7b\x7bspa\x7d\x7d" }
    facts := ⟨none, none, some { (default : Organization) with logo := "a.png" }⟩ }

/-- The block shows its logo, which has another address in each mode. -/
theorem buildContext_modes_block :
    ∃ shown kept shownMachine keptMachine,
      buildContext Asset.rootedSettings blockCard .preview default = (.ok shown, shownMachine) ∧
      buildContext Asset.rootedSettings blockCard .final default = (.ok kept, keptMachine) ∧
      (∃ nodes, Markup.parse shown.source = .ok nodes ∧
        ∀ part ∈ modeParts blockCard.template.category, ¬ Markup.Mentions nodes part) ∧
      fill shown ≠ fill kept := by
  have parsed : Markup.parse "\x7b\x7bspa\x7d\x7d" =
      .ok (Markup.nodesOf (Markup.tokenize "\x7b\x7bspa\x7d\x7d".toList)) :=
    if_neg (by decide)
  refine ⟨_, _, _, _, rfl, rfl, ⟨_, parsed, by decide +kernel⟩, ?_⟩
  decide +kernel

end CertPress.Render
