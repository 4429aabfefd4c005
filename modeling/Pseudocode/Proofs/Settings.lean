import Pseudocode.Proofs.Basic
import Pseudocode.Proofs.Json.RoundTrip
import Pseudocode.Settings

namespace Pseudocode.Settings

open Pseudocode.Text

theorem sound_toJson_iff {settings : Settings} :
    settings.toJson.Sound ↔
      settings.comment.Sound ∧ settings.limit.Sound ∧ settings.showVariables.Sound ∧
        settings.debugMode.Sound ∧ settings.verbose.Sound := by
  constructor
  · intro h
    cases h with
    | object distinct sound => simpa using sound
  · intro h
    have distinct : keys.Nodup := by decide
    exact .object distinct (by simpa using h)

theorem isExact_toJson_iff {settings : Settings} :
    settings.toJson.isExact = true ↔
      settings.comment.isExact = true ∧ settings.limit.isExact = true ∧
        settings.showVariables.isExact = true ∧ settings.debugMode.isExact = true ∧
          settings.verbose.isExact = true := by
  simp [toJson, Json.isExact, Json.fieldsExact]

theorem ofJson_toJson (settings : Settings) :
    ofJson settings.toJson =
      if isLimit settings.limit then .ok settings else .error .badLimit := by
  rfl

theorem sound_usual : ({} : Settings).toJson.Sound := by
  have thousand : Int.natAbs 1000 < 10 ^ integerDigits :=
    calc Int.natAbs 1000
        < 10 ^ 4 := by decide
      _ ≤ 10 ^ integerDigits := Nat.pow_le_pow_right (by decide) (by decide)
  exact sound_toJson_iff.mpr
    ⟨.text _, .integer thousand, .boolean _, .boolean _, .boolean _⟩

theorem sound_of_ofJson {value : Json} {settings : Settings} (sound : value.Sound)
    (h : ofJson value = .ok settings) :
    settings.toJson.Sound ∧ isLimit settings.limit = true := by
  cases sound with
  | @object fields distinct sound =>
      unfold ofJson at h
      dsimp only at h
      have given (key : String) {otherwise : Json} (usual : otherwise.Sound) :
          ((fields.lookup key).getD otherwise).Sound := by
        cases found : fields.lookup key with
        | none => exact usual
        | some field => exact sound (key, field) (mem_of_lookup found)
      obtain ⟨comment, limit, showVariables, debugMode, verbose⟩ :=
        sound_toJson_iff.mp sound_usual
      split at h
      · split at h
        · next isLimit =>
            cases h
            exact ⟨sound_toJson_iff.mpr
              ⟨given _ comment, given _ limit, given _ showVariables, given _ debugMode,
                given _ verbose⟩, isLimit⟩
        · cases h
      · cases h
  | _ => cases h

end Pseudocode.Settings
