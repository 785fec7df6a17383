import CertPress.Proofs.Json.Written
import CertPress.Settings.Server

/-!
# Versions of configurations

A configuration gives its version as a member of an object or as the first item of an array.  The
version that is decoded is the one that is given, in whatever form, or the current one where none
is given.  A configuration of a newer version is refused if it is an object; as an array it is taken
for one of the current version.
-/

namespace CertPress.Settings.ServerConfig

open Json (Value Decoder Fields Raw)

/-- The version that a configuration gives, as a member of an object or as the first item of an
array. -/
def givenVersion? : Value → Option Value
  | .object members => valueAt? "config_version" members
  | .array items => items.head?
  | _ => none

/-- Whether a configuration is of a version: the one that it gives, or else the current one. -/
def OfVersion (version : Nat) (json : Value) : Prop :=
  (givenVersion? json = none ∧ version = currentVersion) ∨
    givenVersion? json = some (.ofNat version)

/-- A decoded configuration has the version that is given. -/
theorem ofVersion_of_ofValue {json : Value} {config : ServerConfig}
    (isRead : decoder.ofValue json = .ok config) : OfVersion config.version json := by
  unfold Decoder.ofValue decoder at isRead
  obtain ⟨found, isFound, isRead⟩ := Action.except_bind_eq_ok.mp isRead
  obtain ⟨version, isVersion, isRead⟩ := Action.except_bind_eq_ok.mp isRead
  obtain ⟨bind, -, isRead⟩ := Action.except_bind_eq_ok.mp isRead
  obtain ⟨records, -, isRead⟩ := Action.except_bind_eq_ok.mp isRead
  obtain ⟨render, -, isRead⟩ := Action.except_bind_eq_ok.mp isRead
  cases isRead
  have given : valueAt? "config_version" found.found = (givenVersion? json).map Raw.ofValue := by
    rcases Fields.valueAt?_ofRaw_first isFound with ⟨members, rfl, same⟩ | ⟨items, rfl, same⟩
    · exact same
    · exact same
  rcases Fields.withDefault_eq_ok isVersion with ⟨absent, isDefault⟩ | ⟨raw, isThere, decoded⟩
  · rw [absent] at given
    exact .inl ⟨Option.map_eq_none_iff.mp given.symm, isDefault⟩
  · rw [isThere] at given
    obtain ⟨value, isValue, rfl⟩ := Option.map_eq_some_iff.mp given.symm
    rw [Decoder.eq_ofNat_of_natBelow decoded] at isValue
    exact .inr isValue

/-- Only an object states a version, and a newer one only if that is the one it gives. -/
theorem tooNew_iff {json : Value} {version : Nat} :
    currentVersion < statedVersion json ∧ statedVersion json = version ↔
      ∃ members, json = .object members ∧
        valueAt? "config_version" members = some (.ofNat version) ∧ currentVersion < version := by
  constructor
  · rintro ⟨newer, rfl⟩
    unfold statedVersion at newer ⊢
    split at newer
    next version given =>
      cases json with
      | object members =>
          refine ⟨members, rfl, ?_, newer⟩
          have positive : 0 < version.toNat := Nat.zero_lt_of_lt newer
          rw [Value.ofNat, Int.toNat_of_nonneg (by omega)]
          exact given
      | _ => cases given
    next => cases newer
  · rintro ⟨members, rfl, given, newer⟩
    have stated : statedVersion (.object members) = version := by
      simp only [statedVersion, Value.member?, given, Value.ofNat, Int.toNat_natCast]
    exact ⟨stated ▸ newer, stated⟩

/-- A configuration that is decoded passes the check of its version unless it is an object of a
newer one. -/
theorem not_tooNew_iff {json : Value} {config : ServerConfig}
    (isRead : decoder.ofValue json = .ok config) :
    ¬ currentVersion < statedVersion json ↔
      ∀ members, json = .object members → config.version ≤ currentVersion := by
  rw [not_lt]
  constructor
  · rintro notNewer members rfl
    by_contra newer
    rcases ofVersion_of_ofValue isRead with ⟨-, isDefault⟩ | given
    · exact newer isDefault.le
    · have refused := tooNew_iff.mpr ⟨members, rfl, given, Nat.lt_of_not_le newer⟩
      exact absurd refused.1 (Nat.not_lt.mpr notNewer)
  · intro old
    by_contra newer
    obtain ⟨members, rfl, given, newer⟩ := tooNew_iff.mp ⟨Nat.lt_of_not_le newer, rfl⟩
    rcases ofVersion_of_ofValue isRead with ⟨absent, -⟩ | own
    · cases given.symm.trans absent
    · have same : config.version = statedVersion (.object members) := by
        simpa [Value.ofNat] using Option.some.inj (own.symm.trans given)
      exact absurd (same ▸ old members rfl) (Nat.not_le.mpr newer)

theorem ofJson_eq_ok_iff {text : String} {config : ServerConfig} : ofJson text = .ok config ↔
    ∃ json read, Json.read text = .ok json ∧ decoder.ofValue json = .ok read ∧
      (∀ members, json = .object members → read.version ≤ currentVersion) ∧
      config = { read with version := currentVersion } := by
  constructor
  · intro accepted
    unfold ofJson at accepted
    split at accepted
    next => cases accepted
    next json isText =>
      split at accepted
      next => cases accepted
      next notNewer =>
        split at accepted
        next read isRead =>
          cases accepted
          exact ⟨json, read, isText, isRead, (not_tooNew_iff isRead).mp notNewer, rfl⟩
        next => cases accepted
  · rintro ⟨json, read, isText, isRead, old, rfl⟩
    simp only [ofJson, isText, if_neg ((not_tooNew_iff isRead).mpr old), isRead]

theorem ofJson_eq_tooNew_iff {text : String} {version : Nat} :
    ofJson text = .error (.tooNew version) ↔ ∃ members,
      Json.read text = .ok (.object members) ∧
        valueAt? "config_version" members = some (.ofNat version) ∧ currentVersion < version := by
  constructor
  · intro refused
    unfold ofJson at refused
    split at refused
    next => cases refused
    next json isText =>
      split at refused
      next newer =>
        cases refused
        obtain ⟨members, rfl, given⟩ := tooNew_iff.mp ⟨newer, rfl⟩
        exact ⟨members, isText, given⟩
      next => split at refused <;> cases refused
  · rintro ⟨members, isText, given⟩
    obtain ⟨newer, stated⟩ := tooNew_iff.mpr ⟨members, rfl, given⟩
    simp only [ofJson, isText, stated, if_pos given.2]

/-- A text is accepted exactly if it reads as a configuration that, if it is an object, is of no
newer version; the version is then brought to the current one.  An object that gives a newer
version is refused for it, whatever else it holds. -/
theorem ofJson_outcomes (text : String) :
    (∀ config, ofJson text = .ok config ↔
      ∃ json read, Json.read text = .ok json ∧ decoder.ofValue json = .ok read ∧
        OfVersion read.version json ∧
        (∀ members, json = .object members → read.version ≤ currentVersion) ∧
        config = { read with version := currentVersion }) ∧
    ∀ version, ofJson text = .error (.tooNew version) ↔
      ∃ members, Json.read text = .ok (.object members) ∧
        valueAt? "config_version" members = some (.ofNat version) ∧ currentVersion < version := by
  refine ⟨fun config => ofJson_eq_ok_iff.trans ⟨?_, ?_⟩, fun version => ofJson_eq_tooNew_iff⟩
  · rintro ⟨json, read, isText, isRead, old, rfl⟩
    exact ⟨json, read, isText, isRead, ofVersion_of_ofValue isRead, old, rfl⟩
  · rintro ⟨json, read, isText, isRead, -, old, rfl⟩
    exact ⟨json, read, isText, isRead, old, rfl⟩

/-- As an array, a configuration of version five is taken for one of the current version. -/
theorem ofJson_newer_array :
    Json.read "[5]" = .ok (.array [.ofNat 5]) ∧
      givenVersion? (.array [.ofNat 5]) = some (.ofNat 5) ∧ currentVersion < 5 ∧
      ofJson "[5]" = .ok default := by
  refine ⟨rfl, rfl, by decide, ?_⟩
  decide +kernel

end CertPress.Settings.ServerConfig
