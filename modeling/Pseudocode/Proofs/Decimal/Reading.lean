import Mathlib.Algebra.Group.Nat.Defs
import Mathlib.Data.Option.Basic
import Pseudocode.Decimal.Reading

namespace Pseudocode.Text

theorem ofDigits_lt {digits : List Nat} (h : ∀ d ∈ digits, d < 10) :
    ofDigits digits < 10 ^ digits.length := by
  have started (n : Nat) :
      digits.foldl (fun n d => 10 * n + d) n < (n + 1) * 10 ^ digits.length := by
    induction digits generalizing n with
    | nil => simp
    | cons d digits ih =>
        have hd := h d List.mem_cons_self
        have rest := ih (fun d hd => h d (List.mem_cons_of_mem _ hd)) (10 * n + d)
        calc (d :: digits).foldl (fun n d => 10 * n + d) n
            < (10 * n + d + 1) * 10 ^ digits.length := rest
          _ ≤ (10 * (n + 1)) * 10 ^ digits.length := Nat.mul_le_mul_right _ (by omega)
          _ = (n + 1) * 10 ^ (d :: digits).length := by
              rw [List.length_cons, Nat.pow_succ, Nat.mul_comm 10, Nat.mul_assoc,
                Nat.mul_comm 10]
  simpa [ofDigits] using started 0

theorem digit?_lt {c : Char} {d : Nat} (h : digit? c = some d) : d < 10 := by
  obtain ⟨first, found, rfl⟩ := Option.map_eq_some_iff.mp h
  have range := List.find?_some found
  simp only [Bool.and_eq_true, decide_eq_true_eq] at range
  omega

theorem groupedDigits_lt {cs : List Char} {digits : List Nat} (h : groupedDigits cs = some digits) :
    ∀ d ∈ digits, d < 10 := by
  fun_induction groupedDigits cs generalizing digits with
  | case1 => cases h
  | case2 c =>
      obtain ⟨d, hd, rfl⟩ := Option.map_eq_some_iff.mp h
      intro d' mem
      cases List.mem_singleton.mp mem
      exact digit?_lt hd
  | case3 c rest ih =>
      obtain ⟨d, hd, more, hmore, rfl⟩ := by simpa [Option.bind_eq_some_iff] using h
      rintro d' (_ | ⟨_, mem⟩)
      · exact digit?_lt hd
      · exact ih hmore d' mem
  | case4 c rest _ _ ih =>
      obtain ⟨d, hd, more, hmore, rfl⟩ := by simpa [Option.bind_eq_some_iff] using h
      rintro d' (_ | ⟨_, mem⟩)
      · exact digit?_lt hd
      · exact ih hmore d' mem

theorem readNat?_lt {cs : List Char} {n : Nat} (h : readNat? cs = some n) :
    n < 10 ^ integerDigits := by
  obtain ⟨digits, hdigits, h⟩ := Option.bind_eq_some_iff.mp h
  obtain ⟨_, hguard, value⟩ := Option.bind_eq_some_iff.mp h
  have short := (Option.guard_eq_some' _).mp hguard
  cases value
  calc ofDigits digits
      < 10 ^ digits.length := ofDigits_lt (groupedDigits_lt hdigits)
    _ ≤ 10 ^ integerDigits := Nat.pow_le_pow_right (by decide) short

theorem readInt?_lt {s : String} {n : Int} (h : readInt? s = some n) :
    n.natAbs < 10 ^ integerDigits := by
  unfold readInt? at h
  dsimp only at h
  split at h
  · obtain ⟨m, hm, rfl⟩ : ∃ m : Nat, readNat? _ = some m ∧ -(m : Int) = n := by
      simpa [Option.bind_eq_some_iff] using h
    simpa using readNat?_lt hm
  · obtain ⟨m, hm, rfl⟩ : ∃ m : Nat, readNat? _ = some m ∧ (m : Int) = n := by simpa using h
    simpa using readNat?_lt hm
  · obtain ⟨m, hm, rfl⟩ : ∃ m : Nat, readNat? _ = some m ∧ (m : Int) = n := by simpa using h
    simpa using readNat?_lt hm

end Pseudocode.Text
