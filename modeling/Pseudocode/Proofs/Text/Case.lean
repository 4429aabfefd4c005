import Mathlib.Data.List.Basic
import Mathlib.Tactic.Common
import Pseudocode.Text.Blank
import Pseudocode.Text.Case

namespace Pseudocode.Text

def blankPoints : List Nat :=
  [0x09, 0x0A, 0x0B, 0x0C, 0x0D, 0x1C, 0x1D, 0x1E, 0x1F, 0x20, 0x85, 0xA0, 0x1680, 0x2000, 0x2001,
    0x2002, 0x2003, 0x2004, 0x2005, 0x2006, 0x2007, 0x2008, 0x2009, 0x200A, 0x2028, 0x2029, 0x202F,
    0x205F, 0x3000]

theorem mem_blankPoints {c : Char} (h : isBlank c = true) : c.toNat ∈ blankPoints := by
  simp only [isBlank, Bool.or_eq_true, Bool.and_eq_true, decide_eq_true_eq, beq_iff_eq] at h
  simp only [blankPoints, List.mem_cons, List.not_mem_nil, or_false]
  omega

theorem of_isBlank {p : Char → Prop} (hpoints : ∀ n ∈ blankPoints, p (Char.ofNat n)) {c : Char}
    (h : isBlank c = true) : p c := by
  have hc := hpoints c.toNat (mem_blankPoints h)
  rwa [Char.ofNat_toNat] at hc

theorem upperChar_of_isBlank {c : Char} (h : isBlank c = true) : upperChar c = [c] :=
  of_isBlank (p := fun c => upperChar c = [c]) (by decide +kernel) h

theorem mem_upper_of_isBlank {cs : List Char} {c : Char} (hc : c ∈ cs) (h : isBlank c = true) :
    c ∈ upper cs :=
  List.mem_flatMap.mpr ⟨c, hc, by rw [upperChar_of_isBlank h]; exact List.mem_singleton_self c⟩

/-- What holds of all characters that the tables of upper case lead to, and of a character that they
do not mention, holds of the upper case of the character, which is never empty. -/
theorem upperChar_cases {p : Char → Prop}
    (words : ∀ word ∈ upperWords, word.2 ≠ [] ∧ ∀ n ∈ word.2, p (Char.ofNat n))
    (runs : ∀ run ∈ upperRuns, ∀ k < run.last + 1 - run.first, p (run.image (run.first + k)))
    {c : Char} (ascii : c.toNat < 0x80 → p c.toUpper) (self : 0x80 ≤ c.toNat → p c) :
    upperChar c ≠ [] ∧ ∀ d ∈ upperChar c, p d := by
  have single : ∀ {d : Char}, p d → [d] ≠ [] ∧ ∀ e ∈ [d], p e := fun hd =>
    ⟨List.cons_ne_nil _ _, List.forall_mem_singleton.mpr hd⟩
  unfold upperChar
  split
  · next hlt => exact single (ascii hlt)
  · next hge =>
      unfold mapCase
      split
      · next word hword =>
          obtain ⟨ne_nil, hchars⟩ := words word (List.mem_of_find?_eq_some hword)
          exact ⟨by simpa using ne_nil, List.forall_mem_map.mpr hchars⟩
      · split
        · next run hrun =>
            have hhas := List.find?_some hrun
            simp only [CaseRun.has, Bool.and_eq_true, decide_eq_true_eq] at hhas
            have himage :=
              runs run (List.mem_of_find?_eq_some hrun) (c.toNat - run.first) (by omega)
            rw [Nat.add_sub_cancel' hhas.1.1] at himage
            exact single himage
        · exact single (self (by omega))

theorem isLower_iff {c : Char} : c.isLower = true ↔ 97 ≤ c.toNat ∧ c.toNat ≤ 122 := by
  change (decide ('a'.val ≤ c.val) && decide (c.val ≤ 'z'.val)) = true ↔ _
  rw [Bool.and_eq_true, decide_eq_true_eq, decide_eq_true_eq, UInt32.le_iff_toNat_le,
    UInt32.le_iff_toNat_le]
  exact Iff.rfl

theorem isUpper_iff {c : Char} : c.isUpper = true ↔ 65 ≤ c.toNat ∧ c.toNat ≤ 90 := by
  change decide ('A'.val ≤ c.val ∧ c.val ≤ 'Z'.val) = true ↔ _
  rw [decide_eq_true_eq, UInt32.le_iff_toNat_le, UInt32.le_iff_toNat_le]
  exact Iff.rfl

/-- A character that upper case may leave behind: neither a blank nor a small letter. -/
def Raised (c : Char) : Prop := isBlank c = false ∧ c.isLower = false

instance (c : Char) : Decidable (Raised c) := inferInstanceAs (Decidable (_ ∧ _))

theorem raised_upperChar {c : Char} (h : isBlank c = false) :
    upperChar c ≠ [] ∧ ∀ d ∈ upperChar c, Raised d := by
  refine upperChar_cases (by decide +kernel) (by decide +kernel) (fun hlt => ?_) fun hge => ?_
  · have hall : ∀ n < 0x80, isBlank (Char.ofNat n) = false → Raised (Char.ofNat n).toUpper := by
      decide +kernel
    have hc := hall c.toNat hlt
    rw [Char.ofNat_toNat] at hc
    exact hc h
  · have hlower : c.isLower = false := by
      rw [← Bool.not_eq_true, isLower_iff]
      omega
    exact ⟨h, hlower⟩

theorem upper_append (cs ds : List Char) : upper (cs ++ ds) = upper cs ++ upper ds :=
  List.flatMap_append

theorem isLower_of_mem_upper {cs : List Char} {d : Char} (h : d ∈ upper cs) :
    d.isLower = false := by
  obtain ⟨c, -, hd⟩ := List.mem_flatMap.mp h
  cases hc : isBlank c with
  | false => exact ((raised_upperChar hc).2 d hd).2
  | true =>
      rw [upperChar_of_isBlank hc, List.mem_singleton] at hd
      rw [hd]
      exact of_isBlank (p := fun c => c.isLower = false) (by decide) hc

theorem isBlank_of_getLast?_upper {cs : List Char}
    (h : ∀ c, cs.getLast? = some c → isBlank c = false) {d : Char}
    (hd : (upper cs).getLast? = some d) : isBlank d = false := by
  obtain rfl | ⟨front, c, rfl⟩ := List.eq_nil_or_concat cs
  · cases hd
  · rw [List.concat_eq_append] at h hd
    obtain ⟨ne_nil, hraised⟩ := raised_upperChar (h c List.getLast?_concat)
    rw [upper_append, show upper [c] = upperChar c from List.append_nil _,
      List.getLast?_append_of_ne_nil _ ne_nil] at hd
    exact (hraised d (List.mem_of_getLast? hd)).1

theorem trimLeft_eq_self {cs : List Char} (h : ∀ c ∈ cs, isBlank c = false) : trimLeft cs = cs := by
  cases cs with
  | nil => rfl
  | cons c rest => exact List.dropWhile_cons_of_neg (by simp [h c List.mem_cons_self])

theorem trim_eq_self {cs : List Char} (h : ∀ c ∈ cs, isBlank c = false) : trim cs = cs := by
  have hreverse : ∀ c ∈ cs.reverse, isBlank c = false := fun c hc => h c (List.mem_reverse.mp hc)
  rw [trim, trimRight, trimLeft_eq_self h, trimLeft_eq_self hreverse, List.reverse_reverse]

theorem upper_eq_self {cs : List Char} (h : ∀ c ∈ cs, upperChar c = [c]) : upper cs = cs := by
  induction cs with
  | nil => rfl
  | cons c rest ih =>
      have hrest : upper rest = rest := ih fun d hd => h d (List.mem_cons_of_mem c hd)
      rw [upper, List.flatMap_cons, h c List.mem_cons_self]
      exact congrArg (c :: ·) hrest

end Pseudocode.Text
