import Mathlib.Data.List.Nodup
import Mathlib.Data.List.TakeWhile
import Pseudocode.Json.Reader
import Pseudocode.Proofs.Basic
import Pseudocode.Proofs.Decimal.Reading

namespace Pseudocode.Json

open Pseudocode.Text

/-- The values that reading gives: whole numbers keep to the limit on digits, and the fields of an
object have names of their own. -/
inductive Sound : Json → Prop
  | null : Sound null
  | boolean (b : Bool) : Sound (boolean b)
  | integer {n : Int} (bound : n.natAbs < 10 ^ integerDigits) : Sound (integer n)
  | number (x : Float) : Sound (number x)
  | text (s : String) : Sound (text s)
  | array {items : List Json} (sound : ∀ item ∈ items, Sound item) : Sound (array items)
  | object {fields : List (String × Json)} (distinct : (fields.map (·.1)).Nodup)
      (sound : ∀ field ∈ fields, Sound field.2) : Sound (object fields)

mutual

def isExact : Json → Bool
  | number _ => false
  | array items => itemsExact items
  | object fields => fieldsExact fields
  | _ => true

def itemsExact : List Json → Bool
  | [] => true
  | item :: rest => isExact item && itemsExact rest

def fieldsExact : List (String × Json) → Bool
  | [] => true
  | (_, value) :: rest => isExact value && fieldsExact rest

end

theorem itemsExact_iff {items : List Json} :
    itemsExact items = true ↔ ∀ item ∈ items, item.isExact = true := by
  induction items with
  | nil => simp [itemsExact]
  | cons item rest ih => simp [itemsExact, ih]

theorem fieldsExact_iff {fields : List (String × Json)} :
    fieldsExact fields = true ↔ ∀ field ∈ fields, field.2.isExact = true := by
  induction fields with
  | nil => simp [fieldsExact]
  | cons field rest ih => simp [fieldsExact, ih]

def ReadsSound (reader : Rest → Except ReadFault (Json × Rest)) : Prop :=
  ∀ ⦃rest value after⦄, reader rest = .ok (value, after) → value.Sound

theorem decimal_eq_ofDigits (ds : List Char) :
    decimal ds = ofDigits (ds.map fun c => c.toNat - 48) := by
  rw [decimal, ofDigits, List.foldl_map]

theorem isDigit_of_wholePart {cs whole : List Char} (h : wholePart cs = some whole) :
    ∀ c ∈ whole, c.isDigit = true := by
  have leading : ∀ c ∈ leadingDigits cs, c.isDigit = true := fun c hc =>
    List.mem_takeWhile_imp hc
  unfold wholePart at h
  split at h
  · cases h
    exact List.all_eq_true.mp rfl
  · split at h
    · cases h
    · cases h
      exact leading

theorem decimal_lt {ds : List Char} (h : ∀ c ∈ ds, c.isDigit = true) :
    decimal ds < 10 ^ ds.length := by
  have small : ∀ d ∈ ds.map fun c => c.toNat - 48, d < 10 := by
    intro d hd
    obtain ⟨c, hc, rfl⟩ := List.mem_map.mp hd
    have digit : 48 ≤ c.toNat ∧ c.toNat ≤ 57 := Char.isDigit_iff_toNat.mp (h c hc)
    omega
  have bound := ofDigits_lt small
  rwa [← decimal_eq_ofDigits, List.length_map] at bound

theorem sound_readNumber : ReadsSound readNumber := by
  intro rest value after h
  unfold readNumber at h
  dsimp only at h
  split at h
  · cases h
  · next whole hwhole =>
      split at h
      · split at h
        · cases h
        · next short =>
            cases h
            have bound : decimal whole < 10 ^ integerDigits :=
              calc decimal whole
                  < 10 ^ whole.length := decimal_lt (isDigit_of_wholePart hwhole)
                _ ≤ 10 ^ integerDigits :=
                  Nat.pow_le_pow_right (by decide) (Nat.not_lt.mp short)
            apply Sound.integer
            split
            · simpa using bound
            · simpa using bound
      · cases h
        exact .number _

theorem sound_readScalar : ReadsSound readScalar := by
  intro rest value after h
  unfold readScalar at h
  split at h
  · next word value' found =>
      cases h
      have mem := List.mem_of_find?_eq_some found
      simp only [wordValues, List.mem_cons, Prod.mk.injEq, List.not_mem_nil, or_false] at mem
      rcases mem with ⟨-, rfl⟩ | ⟨-, rfl⟩ | ⟨-, rfl⟩ | ⟨-, rfl⟩ | ⟨-, rfl⟩ | ⟨-, rfl⟩
      · exact .null
      · exact .boolean _
      · exact .boolean _
      · exact .number _
      · exact .number _
      · exact .number _
  · exact sound_readNumber h

theorem sound_readItems {reader : Rest → Except ReadFault (Json × Rest)}
    (sound : ReadsSound reader) (bound : Nat) {done : List Json}
    (soundDone : ∀ item ∈ done, item.Sound) : ReadsSound (readItems reader bound done) := by
  intro rest value after h
  induction bound generalizing done rest with
  | zero => cases h
  | succ bound ih =>
      obtain ⟨⟨item, next⟩, hitem, h⟩ := bind_eq_ok_iff.mp h
      have soundItems : ∀ i ∈ item :: done, i.Sound := by
        rintro i (_ | ⟨_, mem⟩)
        · exact sound hitem
        · exact soundDone i mem
      dsimp only at h
      split at h
      · cases h
        exact .array fun i mem => soundItems i (List.mem_reverse.mp mem)
      · exact ih soundItems h
      · cases h

theorem mem_putField {key : String} {value : Json} {fields : List (String × Json)}
    {field : String × Json} (h : field ∈ putField key value fields) :
    field = (key, value) ∨ field ∈ fields := by
  induction fields with
  | nil => exact .inl (List.mem_singleton.mp h)
  | cons other rest ih =>
      unfold putField at h
      split at h
      · exact (List.mem_cons.mp h).imp_right (List.mem_cons_of_mem _)
      · rcases List.mem_cons.mp h with rfl | h
        · exact .inr List.mem_cons_self
        · exact (ih h).imp_right (List.mem_cons_of_mem _)

theorem nodup_putField (key : String) (value : Json) {fields : List (String × Json)}
    (distinct : (fields.map (·.1)).Nodup) :
    ((putField key value fields).map (·.1)).Nodup := by
  induction fields with
  | nil => exact List.nodup_singleton key
  | cons other rest ih =>
      rw [List.map_cons, List.nodup_cons] at distinct
      unfold putField
      split
      · next same =>
          rw [List.map_cons, List.nodup_cons, ← eq_of_beq same]
          exact distinct
      · next differs =>
          rw [List.map_cons, List.nodup_cons]
          refine ⟨fun mem => ?_, ih distinct.2⟩
          obtain ⟨field, hfield, name⟩ := List.mem_map.mp mem
          rcases mem_putField hfield with rfl | hfield
          · exact differs (beq_iff_eq.mpr name.symm)
          · exact distinct.1 (List.mem_map.mpr ⟨field, hfield, name⟩)

theorem sound_readFields {reader : Rest → Except ReadFault (Json × Rest)}
    (sound : ReadsSound reader) (bound : Nat) {done : List (String × Json)}
    (distinct : (done.map (·.1)).Nodup) (soundDone : ∀ field ∈ done, field.2.Sound) :
    ReadsSound (readFields reader bound done) := by
  intro rest value after h
  induction bound generalizing done rest with
  | zero => cases h
  | succ bound ih =>
      unfold readFields at h
      split at h
      · obtain ⟨⟨key, afterKey⟩, -, h⟩ := bind_eq_ok_iff.mp h
        dsimp only at h
        split at h
        · obtain ⟨⟨item, next⟩, hitem, h⟩ := bind_eq_ok_iff.mp h
          have distinct' := nodup_putField key item distinct
          have soundDone' : ∀ field ∈ putField key item done, field.2.Sound := by
            intro field mem
            rcases mem_putField mem with rfl | mem
            · exact sound hitem
            · exact soundDone field mem
          dsimp only at h
          split at h
          · cases h
            exact .object distinct' soundDone'
          · exact ih distinct' soundDone' h
          · cases h
        · cases h
      · cases h

theorem sound_readValue (depth : Nat) : ReadsSound (readValue depth) := by
  induction depth with
  | zero => exact fun _ _ _ h => nomatch h
  | succ depth ih =>
      intro rest value after h
      unfold readValue at h
      split at h
      · cases h
      · obtain ⟨⟨s, next⟩, -, h⟩ := bind_eq_ok_iff.mp h
        cases h
        exact .text s
      · dsimp only at h
        split at h
        · cases h
          exact .array nofun
        · have none : ∀ item ∈ ([] : List Json), item.Sound := nofun
          exact sound_readItems ih _ none h
      · dsimp only at h
        split at h
        · cases h
          exact .object List.nodup_nil nofun
        · have distinct : (([] : List (String × Json)).map (·.1)).Nodup := List.nodup_nil
          exact sound_readFields ih _ distinct nofun h
      · exact sound_readScalar h

theorem sound_of_read {cs : List Char} {value : Json} (h : read cs = .ok value) : value.Sound := by
  unfold read at h
  split at h
  · cases h
  · obtain ⟨⟨value', after⟩, hvalue, h⟩ := bind_eq_ok_iff.mp h
    dsimp only at h
    split at h
    · cases h
      exact sound_readValue _ hvalue
    · cases h

end Pseudocode.Json
