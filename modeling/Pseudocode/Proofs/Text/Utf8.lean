import Pseudocode.Text.Blank
import Pseudocode.Text.Utf8

namespace Pseudocode.Text

/-- A character of one byte that is no carriage return. Reading a file leaves it as it is. -/
def isPlain (c : Char) : Bool := c.toNat < 0x80 && c != '\r'

theorem utf8EncodeChar_of_isPlain {c : Char} (h : isPlain c = true) :
    String.utf8EncodeChar c = [UInt8.ofNat c.toNat] := by
  simp only [isPlain, Bool.and_eq_true, decide_eq_true_eq] at h
  apply String.utf8EncodeChar_eq_singleton
  rw [Char.utf8Size_eq_one_iff, UInt32.le_iff_toNat_le]
  have : c.val.toNat < 0x80 := h.1
  exact Nat.le_of_lt_succ this

theorem readAfterLead_of_isPlain {c : Char} (h : isPlain c = true) (more : List UInt8) :
    readAfterLead (UInt8.ofNat c.toNat) more = .char c 1 := by
  simp only [isPlain, Bool.and_eq_true, decide_eq_true_eq] at h
  have small : (UInt8.ofNat c.toNat).toNat = c.toNat := by
    rw [UInt8.toNat_ofNat', Nat.mod_eq_of_lt (by omega)]
  have ascii : UInt8.ofNat c.toNat < 0x80 := by
    rw [UInt8.lt_iff_toNat_lt, small]
    exact h.1
  unfold readAfterLead
  rw [if_pos ascii, small, Char.ofNat_toNat]

theorem decodeFrom_plain {cs : List Char} (h : ∀ c ∈ cs, isPlain c = true) (start : Nat) :
    decodeFrom start 0 (cs.flatMap String.utf8EncodeChar) = .ok cs := by
  induction cs generalizing start with
  | nil => rfl
  | cons c cs ih =>
      have hc := h c List.mem_cons_self
      rw [List.flatMap_cons, utf8EncodeChar_of_isPlain hc, List.singleton_append, decodeFrom]
      simp only [readAfterLead_of_isPlain hc, Nat.sub_self]
      rw [ih (fun c hc => h c (List.mem_cons_of_mem _ hc))]
      rfl

theorem decodeUtf8_plain {s : String} (h : ∀ c ∈ s.toList, isPlain c = true) :
    decodeUtf8 s.toUTF8.data.toList = .ok s.toList := by
  rw [String.toUTF8_eq_toByteArray, ← String.utf8Encode_toList, List.utf8Encode,
    List.toList_data_toByteArray]
  exact decodeFrom_plain h 0

theorem unifyBreaks_plain {cs : List Char} (h : ∀ c ∈ cs, isPlain c = true) :
    unifyBreaks cs = cs := by
  induction cs with
  | nil => rfl
  | cons c cs ih =>
      have notReturn : c ≠ '\r' := by
        rintro rfl
        exact absurd (h '\r' List.mem_cons_self) (by decide)
      rw [unifyBreaks, ih fun c hc => h c (List.mem_cons_of_mem _ hc)]
      · exact fun rest hc => absurd hc notReturn
      · exact fun hc => absurd hc notReturn

end Pseudocode.Text
