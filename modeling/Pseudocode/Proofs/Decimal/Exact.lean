import Mathlib

namespace Pseudocode.Double

open Float.Model Float.Model.UnpackedFloat

def unpackedRational? : UnpackedFloat → Option ℚ
  | .zero _ => some 0
  | .finite sign mantissa exponent _ => some (sign.apply mantissa * 2 ^ exponent)
  | _ => none

def rational? (x : Float) : Option ℚ := unpackedRational? x.toModel.unpack

/-- A double stands for a whole number. The two zeros stand for the same one. -/
def IsWhole (x : Float) (k : ℤ) : Prop := rational? x = some (k : ℚ)

/-- The mantissas and exponents of doubles: the mantissa has all of its bits unless the exponent is
the smallest. -/
structure Canonical (mantissa : Nat) (exponent : ℤ) : Prop where
  pos : 0 < mantissa
  lt : mantissa < 2 ^ 53
  exponent_ge : -1074 ≤ exponent
  full : 2 ^ 52 ≤ mantissa ∨ exponent = -1074

theorem toNat_append_one (v : BitVec 52) : (1#1 ++ v).toNat = 2 ^ 52 + v.toNat := by
  show 2 ^ 52 ||| v.toNat = _
  rw [Nat.or_comm, Nat.or_two_pow_eq_add_of_lt v.isLt, Nat.add_comm]

theorem canonical_of_unpack {x : Float.Model} {sign : Sign} {mantissa : Nat} {exponent : ℤ}
    {pos : 0 < mantissa} (h : x.unpack = .finite sign mantissa exponent pos) :
    Canonical mantissa exponent := by
  have hlt : (@unpackMantissa Format.binary64 x.toBits.toBitVec).toNat < 2 ^ 52 :=
    BitVec.isLt _
  have hbias : Format.binary64.exponentBias = 1023 := rfl
  unfold Float.Model.unpack UnpackedFloat.unpack at h
  dsimp only at h
  rw [hbias] at h
  split at h
  · split at h <;> cases h
  · split at h
    · next hexponent =>
        split at h
        · cases h
        · obtain ⟨-, rfl, rfl⟩ := finite.inj h
          rw [hexponent]
          exact ⟨pos, by omega, by decide, .inr rfl⟩
    · next hexponent =>
        obtain ⟨-, rfl, rfl⟩ := finite.inj h
        have hne : (@unpackExponent Format.binary64 x.toBits.toBitVec).toNat ≠ 0 := by
          intro hzero
          exact hexponent (BitVec.eq_of_toNat_eq hzero)
        rw [toNat_append_one]
        exact ⟨by omega, by omega, by omega, .inl (by omega)⟩

theorem log2_eq {mantissa : Nat} (hfull : 2 ^ 52 ≤ mantissa) (hlt : mantissa < 2 ^ 53) :
    mantissa.log2 = 52 :=
  (Nat.log2_eq_iff (by omega)).mpr ⟨hfull, hlt⟩

theorem unpack_pack (sign : Sign) {mantissa : Nat} {exponent : ℤ} (pos : 0 < mantissa)
    (hfull : 2 ^ 52 ≤ mantissa) (hlt : mantissa < 2 ^ 53) (hge : -1074 ≤ exponent)
    (hle : exponent ≤ 971) :
    (Float.Model.pack (.finite sign mantissa exponent pos)).unpack =
      .finite sign mantissa exponent pos := by
  have hbias : (exponent + Format.binary64.exponentBias +
      Format.binary64.mantissaBitsWithoutImplicit).toNat = (exponent + 1075).toNat := by
    show (exponent + (1023 : ℕ) + (52 : ℕ)).toNat = _
    omega
  have hpack : UnpackedFloat.pack Format.binary64 (.finite sign mantissa exponent pos) =
      packComponents Format.binary64 sign (BitVec.ofNat 11 (exponent + 1075).toNat)
        (BitVec.ofNat 52 mantissa) := by
    rw [UnpackedFloat.pack]
    simp only [log2_eq hfull hlt, hbias]
    rw [if_neg (by omega), if_pos (by decide)]
  have hexponent : (BitVec.ofNat 11 (exponent + 1075).toNat).toNat = (exponent + 1075).toNat := by
    rw [BitVec.toNat_ofNat, Nat.mod_eq_of_lt (by omega)]
  have hspecial : BitVec.ofNat 11 (exponent + 1075).toNat ≠ -1#11 := by
    intro heq
    rw [heq] at hexponent
    have hones : (-1#11).toNat = 2047 := rfl
    omega
  have hzero : BitVec.ofNat 11 (exponent + 1075).toNat ≠ 0#11 := by
    intro heq
    rw [heq] at hexponent
    have hnone : (0#11).toNat = 0 := rfl
    omega
  have hmantissa : (1#1 ++ BitVec.ofNat 52 mantissa).toNat = mantissa := by
    rw [toNat_append_one, BitVec.toNat_ofNat]
    omega
  show UnpackedFloat.unpack Format.binary64 (UnpackedFloat.pack Format.binary64 _) = _
  rw [hpack, UnpackedFloat.unpack]
  simp only [unpackMantissa_packComponents, unpackExponent_packComponents,
    unpackSign_packComponents, Sign.ofBitVec_toBitVec, if_neg hspecial, if_neg hzero, hexponent,
    hmantissa]
  congr 1
  show ((exponent + 1075).toNat : ℤ) - ((1023 : ℕ) + (52 : ℕ)) = exponent
  omega

theorem lt_iff_compare {x y : Float} :
    x < y ↔ x.toModel.unpack.compare y.toModel.unpack = some .lt := by
  show (x.lt y = true) ↔ _
  unfold Float.lt
  rw [decide_eq_true_eq]
  show (Float.Model.lt _ _ = true) ↔ _
  unfold Float.Model.lt UnpackedFloat.lt
  exact beq_iff_eq

section Order

variable {m₁ m₂ : Nat} {e₁ e₂ : ℤ}

theorem scaled_lt (h₁ : Canonical m₁ e₁) (h₂ : Canonical m₂ e₂) (h : e₁ < e₂) :
    (m₁ : ℚ) * 2 ^ e₁ < m₂ * 2 ^ e₂ := by
  have hfull : 2 ^ 52 ≤ m₂ := h₂.full.resolve_right (by have := h₁.exponent_ge; omega)
  have hlt : (m₁ : ℚ) < 2 ^ 53 := by exact_mod_cast h₁.lt
  have hle : (2 ^ 52 : ℚ) ≤ m₂ := by exact_mod_cast hfull
  have hstep : (2 : ℚ) ^ (e₁ + 1) ≤ 2 ^ e₂ := zpow_le_zpow_right₀ (by norm_num) h
  calc (m₁ : ℚ) * 2 ^ e₁ < 2 ^ 53 * 2 ^ e₁ := by gcongr
    _ = 2 ^ 52 * 2 ^ (e₁ + 1) := by rw [zpow_add_one₀ (by norm_num)]; ring
    _ ≤ m₂ * 2 ^ e₂ := by gcongr

theorem then_compare_eq_lt (h₁ : Canonical m₁ e₁) (h₂ : Canonical m₂ e₂) :
    (compare e₁ e₂).then (compare m₁ m₂) = .lt ↔ (m₁ : ℚ) * 2 ^ e₁ < m₂ * 2 ^ e₂ := by
  rcases lt_trichotomy e₁ e₂ with hlt | rfl | hgt
  · rw [compare_lt_iff_lt.mpr hlt]
    simp [Ordering.then, scaled_lt h₁ h₂ hlt]
  · have hpos : (0 : ℚ) < 2 ^ e₁ := by positivity
    rw [compare_eq_iff_eq.mpr rfl, Ordering.then, compare_lt_iff_lt, mul_lt_mul_iff_left₀ hpos,
      Nat.cast_lt]
  · rw [compare_gt_iff_gt.mpr hgt]
    simp [Ordering.then, (scaled_lt h₂ h₁ hgt).le]

end Order

theorem unpack_of_rational? {x : Float} {p : ℚ} (h : rational? x = some p) :
    (∃ sign, x.toModel.unpack = .zero sign ∧ p = 0) ∨
      ∃ sign mantissa exponent pos, x.toModel.unpack = .finite sign mantissa exponent pos ∧
        p = sign.apply mantissa * 2 ^ exponent := by
  unfold rational? at h
  cases hunpack : x.toModel.unpack with
  | infinity sign => simp [hunpack, unpackedRational?] at h
  | notANumber => simp [hunpack, unpackedRational?] at h
  | zero sign =>
      rw [hunpack] at h
      exact .inl ⟨sign, rfl, (Option.some.inj h).symm⟩
  | finite sign mantissa exponent pos =>
      rw [hunpack] at h
      exact .inr ⟨sign, mantissa, exponent, pos, rfl, (Option.some.inj h).symm⟩

/-- Doubles are ordered as the numbers that they stand for. -/
theorem lt_iff_of_rational? {x y : Float} {p q : ℚ} (hx : rational? x = some p)
    (hy : rational? y = some q) : x < y ↔ p < q := by
  have hscaled : ∀ (m : Nat) (e : ℤ), 0 < m → (0 : ℚ) < m * 2 ^ e := by
    intro m e hm
    have hcast : (0 : ℚ) < m := by exact_mod_cast hm
    positivity
  rw [lt_iff_compare]
  rcases unpack_of_rational? hx with ⟨s₁, hux, rfl⟩ | ⟨s₁, m₁, e₁, pos₁, hux, rfl⟩
  · rcases unpack_of_rational? hy with ⟨s₂, huy, rfl⟩ | ⟨s₂, m₂, e₂, pos₂, huy, rfl⟩
    · simp [hux, huy, UnpackedFloat.compare]
    · have hpos := hscaled m₂ e₂ pos₂
      cases s₂ <;> simp [hux, huy, UnpackedFloat.compare, Sign.apply] <;> linarith
  · have hpos₁ := hscaled m₁ e₁ pos₁
    rcases unpack_of_rational? hy with ⟨s₂, huy, rfl⟩ | ⟨s₂, m₂, e₂, pos₂, huy, rfl⟩
    · cases s₁ <;> simp [hux, huy, UnpackedFloat.compare, Sign.apply] <;> linarith
    · have hpos₂ := hscaled m₂ e₂ pos₂
      have h₁ := canonical_of_unpack hux
      have h₂ := canonical_of_unpack huy
      rw [hux, huy]
      cases s₁ <;> cases s₂
      · have hswap : ((compare e₁ e₂).then (compare m₁ m₂)).swap =
            (compare e₂ e₁).then (compare m₂ m₁) := by
          rw [Ordering.swap_then, ← Std.OrientedCmp.eq_swap, ← Std.OrientedCmp.eq_swap]
        simpa [UnpackedFloat.compare, Sign.apply, hswap] using then_compare_eq_lt h₂ h₁
      · simp only [UnpackedFloat.compare, Sign.apply, Int.cast_neg, Int.cast_natCast, true_iff]
        linarith
      · simp [UnpackedFloat.compare, Sign.apply]
        linarith
      · simpa [UnpackedFloat.compare, Sign.apply] using then_compare_eq_lt h₁ h₂

theorem shiftRight_exact (m s : Nat) :
    (⟨m * 2 ^ s, false, false⟩ : ExtendedMantissa) >>> s = ⟨m, false, false⟩ := by
  show Nat.repeat ExtendedMantissa.shiftRightOne s ⟨m * 2 ^ s, false, false⟩ = _
  induction s generalizing m with
  | zero => simp [Nat.repeat]
  | succ s ih =>
      rw [Nat.repeat, pow_succ', ← mul_assoc, ih (m * 2)]
      simp [ExtendedMantissa.shiftRightOne]

section Round

variable {m s : Nat} {e : ℤ}

theorem targetExponent_eq (hfull : 2 ^ 52 ≤ m) (hlt : m < 2 ^ 53) (he : -1074 ≤ e) :
    Format.binary64.targetExponent (totalExponent (m * 2 ^ s) (e - s)) = e := by
  have hlog : (m * 2 ^ s).log2 = 52 + s := by
    rw [Nat.log2_eq_iff (by positivity)]
    constructor
    · rw [pow_add]
      exact Nat.mul_le_mul_right _ hfull
    · rw [add_right_comm, pow_add]
      exact Nat.mul_lt_mul_of_pos_right hlt (by positivity)
  rw [Format.targetExponent, totalExponent, hlog]
  show max (((52 + s : ℕ) : ℤ) + 1 + (e - s) - (53 : ℕ)) (-1074) = e
  omega

theorem shiftToTargetExponent_exact (hfull : 2 ^ 52 ≤ m) (hlt : m < 2 ^ 53) (he : -1074 ≤ e) :
    shiftToTargetExponent Format.binary64 (m * 2 ^ s) (e - s) .exact =
      (⟨m, false, false⟩, e) := by
  have hamount : (e - (e - s)).toNat = s := by omega
  rw [shiftToTargetExponent, targetExponent_eq hfull hlt he, shiftToExponent]
  simp only [hamount, ExtendedMantissa.ofMantissaAndAccuracy, shiftRight_exact]
  simp

theorem round_exact (sign : Sign) (hfull : 2 ^ 52 ≤ m) (hlt : m < 2 ^ 53) (he : -1074 ≤ e)
    (pos : 0 < m) :
    UnpackedFloat.round Format.binary64 sign (m * 2 ^ s) (e - s) = .finite sign m e pos := by
  have hkept : decreaseExponent (m * 2 ^ s) (e - s) e = (m * 2 ^ s, e - s) := by
    simp [decreaseExponent]
  have hagain : shiftToTargetExponent Format.binary64 m e .exact = (⟨m, false, false⟩, e) := by
    simpa using shiftToTargetExponent_exact (s := 0) hfull hlt he
  simp only [UnpackedFloat.round, targetExponent_eq hfull hlt he, hkept, roundWithAccuracy,
    shiftToTargetExponent_exact hfull hlt he, ExtendedMantissa.roundedMantissa,
    ExtendedMantissa.accuracy, Accuracy.roundToNearestEven, hagain, dif_neg pos.ne']

end Round

theorem exists_mantissa {j n : Nat} (hpos : 0 < j) (hle : j ≤ 2 ^ 53) (hn : 52 ≤ n) :
    ∃ m s : Nat, 2 ^ 52 ≤ m ∧ m < 2 ^ 53 ∧ n ≤ s + 52 ∧ s ≤ n + 1 ∧ j * 2 ^ n = m * 2 ^ s := by
  have hlow : 2 ^ j.log2 ≤ j := Nat.log2_self_le hpos.ne'
  have hhigh : j < 2 ^ (j.log2 + 1) := Nat.lt_log2_self
  by_cases hlog : j.log2 ≤ 52
  · refine ⟨j * 2 ^ (52 - j.log2), n + j.log2 - 52, ?_, ?_, by omega, by omega, ?_⟩
    · calc 2 ^ 52 = 2 ^ j.log2 * 2 ^ (52 - j.log2) := by rw [← pow_add]; congr 1; omega
        _ ≤ j * 2 ^ (52 - j.log2) := Nat.mul_le_mul_right _ hlow
    · calc j * 2 ^ (52 - j.log2) < 2 ^ (j.log2 + 1) * 2 ^ (52 - j.log2) :=
            Nat.mul_lt_mul_of_pos_right hhigh (by positivity)
        _ = 2 ^ 53 := by rw [← pow_add]; congr 1; omega
    · rw [mul_assoc, ← pow_add]
      congr 2
      omega
  · have hlast : j = 2 ^ 53 := by
      have hmono : 2 ^ 53 ≤ 2 ^ j.log2 := Nat.pow_le_pow_right (by decide) (by omega)
      omega
    refine ⟨2 ^ 52, n + 1, le_refl _, by decide, by omega, by omega, ?_⟩
    rw [hlast, ← pow_add, ← pow_add]
    congr 1
    omega

theorem unpack_pack_round (sign : Sign) {j n : Nat} (hpos : 0 < j) (hle : j ≤ 2 ^ 53)
    (hn : 52 ≤ n) :
    unpackedRational? (Float.Model.pack
      (UnpackedFloat.round Format.binary64 sign (j * 2 ^ n) (-n))).unpack =
        some ((sign.apply j : ℤ) : ℚ) := by
  obtain ⟨m, s, hfull, hlt, hlow, hhigh, heq⟩ := exists_mantissa hpos hle hn
  have hexponent : (-n : ℤ) = (s - n : ℤ) - s := by omega
  rw [heq, hexponent, round_exact sign hfull hlt (by omega) (by omega),
    unpack_pack sign _ hfull hlt (by omega) (by omega), unpackedRational?]
  have hvalue : (m : ℚ) * 2 ^ ((s : ℤ) - n) = j := by
    rw [zpow_sub₀ (by norm_num), zpow_natCast, zpow_natCast, ← mul_div_assoc,
      div_eq_iff (by positivity)]
    exact_mod_cast heq.symm
  cases sign <;> simp [Sign.apply, hvalue]

/-- A whole number that is not too large is rounded to itself. -/
theorem unpack_pack_normalize {k : ℤ} {n : Nat} (hle : |k| ≤ 2 ^ 53) (hn : 52 ≤ n) :
    unpackedRational? (Float.Model.pack
      (UnpackedFloat.normalize Format.binary64 (k * 2 ^ n) (-n) .positive)).unpack =
        some (k : ℚ) := by
  obtain ⟨hlow, hhigh⟩ := abs_le.mp hle
  have hpow : (0 : ℤ) < 2 ^ n := by positivity
  unfold UnpackedFloat.normalize
  rcases lt_trichotomy k 0 with hneg | rfl | hpos
  · have hnat : (-(k * 2 ^ n)).toNat = (-k).toNat * 2 ^ n := by
      have hcast : -(k * 2 ^ n) = (((-k).toNat * 2 ^ n : ℕ) : ℤ) := by
        push_cast
        rw [Int.toNat_of_nonneg (by omega)]
        ring
      rw [hcast, Int.toNat_natCast]
    rw [compare_lt_iff_lt.mpr (mul_neg_of_neg_of_pos hneg hpow)]
    simp only [hnat]
    rw [unpack_pack_round .negative (by omega) (by omega) hn, Sign.apply,
      Int.toNat_of_nonneg (by omega), neg_neg]
  · have hzero : (Float.Model.pack (.zero .positive)).unpack = .zero .positive := by rfl
    rw [zero_mul, compare_eq_iff_eq.mpr rfl, Int.cast_zero]
    simp only [hzero, unpackedRational?]
  · have hnat : (k * 2 ^ n).toNat = k.toNat * 2 ^ n := by
      have hcast : k * 2 ^ n = ((k.toNat * 2 ^ n : ℕ) : ℤ) := by
        push_cast
        rw [Int.toNat_of_nonneg (by omega)]
      rw [hcast, Int.toNat_natCast]
    rw [compare_gt_iff_gt.mpr (mul_pos hpos hpow)]
    simp only [hnat]
    rw [unpack_pack_round .positive (by omega) (by omega) hn, Sign.apply,
      Int.toNat_of_nonneg (by omega)]

theorem isWhole_add_one {x : Float} {k : ℤ} (h : IsWhole x k) (hle : |k + 1| ≤ 2 ^ 53) :
    IsWhole (x + 1.0) (k + 1) := by
  have hone : (1.0 : Float).toModel.unpack = .finite .positive (2 ^ 52) (-52) (by decide) := by
    rfl
  show unpackedRational? (Float.Model.pack
    (UnpackedFloat.add Format.binary64 x.toModel.unpack (1.0 : Float).toModel.unpack)).unpack = _
  rw [hone]
  rcases unpack_of_rational? h with ⟨sign, hx, hzero⟩ | ⟨sign, m, e, pos, hx, hvalue⟩
  · rw [hx]
    show unpackedRational? (Float.Model.pack (.finite .positive (2 ^ 52) (-52) _)).unpack = _
    rw [unpack_pack .positive _ (by decide) (by decide) (by decide) (by decide), unpackedRational?,
      Int.cast_add, hzero, Sign.apply]
    norm_num
  · -- Both numbers are whole multiples of the smaller of the two steps.
    obtain ⟨n, hn, hmin⟩ : ∃ n : ℕ, 52 ≤ n ∧ min e (-52) = -n :=
      ⟨(-min e (-52)).toNat, by omega, by omega⟩
    have hleft : sign.apply ((m <<< (e - min e (-52)).toNat : ℕ) : ℤ) = k * 2 ^ n := by
      obtain ⟨d, hd, hamount⟩ : ∃ d : ℕ, (d : ℤ) = e + n ∧ (e - min e (-52)).toNat = d :=
        ⟨(e + n).toNat, by omega, by omega⟩
      have hpow : (2 : ℚ) ^ d = 2 ^ e * 2 ^ n := by
        rw [← zpow_natCast 2 d, hd, zpow_add₀ (by norm_num), zpow_natCast]
      have hcast : ((sign.apply ((m <<< d : ℕ) : ℤ) : ℤ) : ℚ) = sign.apply m * 2 ^ d := by
        cases sign <;> simp [Sign.apply, Nat.shiftLeft_eq]
      rw [hpow, ← mul_assoc, ← hvalue] at hcast
      rw [hamount]
      exact_mod_cast hcast
    have hright : Sign.apply .positive ((2 ^ 52 <<< (-52 - min e (-52)).toNat : ℕ) : ℤ) =
        2 ^ n := by
      have hamount : (-52 - min e (-52)).toNat = n - 52 := by omega
      rw [Sign.apply, hamount, Nat.shiftLeft_eq, ← pow_add, Nat.add_sub_cancel' hn, Nat.cast_pow]
      rfl
    rw [hx]
    show unpackedRational? (Float.Model.pack (UnpackedFloat.normalize Format.binary64
      (sign.apply ((m <<< (e - min e (-52)).toNat : ℕ) : ℤ) +
        Sign.apply .positive ((2 ^ 52 <<< (-52 - min e (-52)).toNat : ℕ) : ℤ))
      (min e (-52)) .positive)).unpack = _
    rw [hleft, hright, hmin, ← add_one_mul]
    exact unpack_pack_normalize hle hn

end Pseudocode.Double
