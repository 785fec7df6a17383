import CertPress.Proofs.Json.Ends
import CertPress.Record.Details

/-!
# Fields of payloads

What the fields of a payload give for the columns of a document.  A field has a text if it
holds a number or a string that shows something, and it gives a list as an array or as a text
that reads as one.  Texts and items are trimmed when they are read, so reading them again does
not change them.
-/

namespace CertPress.Record

open Json (Value Object)

/-! ## Texts -/

/-- Whether a value has a text: a string that shows something, or a number. -/
inductive HasText : Value → Prop where
  | string {text : String} : Text.blank text = false → HasText (.string text)
  | number (number : Json.Number) : HasText (.number number)

/-- Whether a text is as a field has it: it shows something and has no blanks at its ends. -/
structure Neat (text : String) : Prop where
  shown : Text.blank text = false
  trimmed : Text.trimmed text = text

section Texts

variable {data : Object} {key text : String} {keys : List String}

theorem textField?_of_trimmed (found : data.get? key = some (.string text))
    (shown : Text.blank text = false) (trimmed : Text.trimmed text = text) :
    textField? data key = some text := by
  simp [textField?, found, shown, trimmed]

theorem textField?_congr {other : Object} (same : data.get? key = other.get? key) :
    textField? data key = textField? other key := by
  simp only [textField?, same]

theorem isSome_textField?_iff :
    (textField? data key).isSome ↔ ∃ value, data.get? key = some value ∧ HasText value := by
  unfold textField?
  constructor
  · intro filled
    split at filled
    next text found =>
      split at filled
      next => cases filled
      next shown => exact ⟨_, found, .string (by simpa using shown)⟩
    next number found => exact ⟨_, found, .number number⟩
    next => cases filled
  · rintro ⟨_, found, shown | number⟩
    · simp [found, shown]
    · simp [found]

/-- A column that has a text has it from the payload. -/
theorem contains_of_textField? (filled : (textField? data key).isSome) : data.contains key := by
  obtain ⟨value, found, -⟩ := isSome_textField?_iff.mp filled
  rw [Mapping.contains, found]
  rfl

theorem neat_textField? (found : textField? data key = some text) : Neat text := by
  unfold textField? at found
  split at found
  next written _ =>
    split at found
    next => cases found
    next shown =>
      obtain rfl : Text.trimmed written = text := by simpa using found
      have trimmed := Text.trimmed_trimmed written
      exact ⟨Text.blank_eq_false (Text.trimmed_ne_empty (by simpa using shown)) trimmed, trimmed⟩
  next number _ =>
    obtain rfl : String.ofList number.chars = text := by simpa using found
    exact ⟨number.blank_chars, Value.trimmed_text (.number number)⟩
  next => cases found

theorem firstTextField?_singleton (data : Object) (key : String) :
    firstTextField? data [key] = textField? data key := by
  rw [firstTextField?, List.findSome?_cons]
  cases textField? data key <;> rfl

theorem isSome_firstTextField?_iff :
    (firstTextField? data keys).isSome ↔
      ∃ key ∈ keys, ∃ value, data.get? key = some value ∧ HasText value := by
  simp only [firstTextField?, List.findSome?_isSome_iff, isSome_textField?_iff]

theorem neat_firstTextField? (found : firstTextField? data keys = some text) : Neat text := by
  obtain ⟨key, -, isText⟩ := List.exists_of_findSome?_eq_some found
  exact neat_textField? isText

/-- Only one of several fields counts if the payload has none of the others. -/
theorem firstTextField?_eq (inKeys : key ∈ keys)
    (others : ∀ other ∈ keys, other ≠ key → data.get? other = none) :
    firstTextField? data keys = textField? data key := by
  cases first : firstTextField? data keys with
  | none => exact (List.findSome?_eq_none_iff.mp first key inKeys).symm
  | some text =>
      obtain ⟨other, inOthers, isText⟩ := List.exists_of_findSome?_eq_some first
      by_cases isKey : other = key
      · rw [← isKey, isText]
      · rw [textField?, others other inOthers isKey] at isText
        cases isText

/-- A field that holds what another field has as its text has the same text. -/
theorem textField?_ofText? {found : Option String} (neat : ∀ text ∈ found, Neat text)
    (written : data.get? key = some (.ofText? found)) : textField? data key = found := by
  cases found with
  | none => simp [textField?, written, Value.ofText?]
  | some text =>
      obtain ⟨shown, trimmed⟩ := neat text rfl
      exact textField?_of_trimmed written shown trimmed

end Texts

/-! ## Lists -/

/-- How a value gives a list: as an array, or as a text that reads as one. -/
inductive GivesList (items : List Value) : Value → Prop where
  | array : GivesList items (.array items)
  | encoded {text : String} : Json.read text = .ok (.array items) → GivesList items (.string text)

section Lists

variable {data : Object} {key : String} {items : List Value} {given : Value}

theorem listItems_of_givesList (found : data.get? key = some given)
    (gives : GivesList items given) : listItems data key = items := by
  cases gives with
  | array => simp only [listItems, found]
  | encoded isRead => simp only [listItems, found, isRead]

theorem textList_of_givesList (found : data.get? key = some given)
    (gives : GivesList items given) : textList data key = items.map itemText := by
  rw [textList, listItems_of_givesList found gives]

/-- A field has items only if it gives them as a list. -/
theorem givesList_of_listItems (same : listItems data key = items) (filled : items ≠ []) :
    ∃ given, data.get? key = some given ∧ GivesList items given := by
  unfold listItems at same
  split at same
  next own found => exact ⟨_, found, same ▸ .array⟩
  next text found =>
    split at same
    next own isRead => exact ⟨_, found, .encoded (same ▸ isRead)⟩
    next => exact absurd same.symm filled
  next => exact absurd same.symm filled

theorem trimmed_itemText (item : Value) : Text.trimmed (itemText item) = itemText item := by
  cases item with
  | string text => exact Text.trimmed_trimmed text
  | null => rfl
  | _ => exact Value.trimmed_text _

/-- The texts of a list are the texts of its items when they are given as a list. -/
theorem textList_ofTexts {texts : List String} (trimmed : ∀ text ∈ texts, Text.trimmed text = text)
    (written : data.get? key = some (.ofTexts texts)) : textList data key = texts := by
  rw [textList_of_givesList written .array, List.map_map]
  exact (List.map_congr_left trimmed).trans (List.map_id texts)

end Lists

end CertPress.Record
