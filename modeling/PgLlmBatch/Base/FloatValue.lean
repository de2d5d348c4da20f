import PgLlmBatch.Base.PyFloat

/-! Rounding depends on the ratio only, so that trailing zeros of a numeral change nothing, and
the digits of `repr` read back as the float. -/
namespace PgLlmBatch.Base.PyFloat

theorem roundDivScale (num den : Nat) {c : Nat} (some_ : 0 < c) : roundDiv (num * c) (den * c) = roundDiv num den := by
  have quotient : num * c / (den * c) = num / den := Nat.mul_div_mul_right num den some_
  have rest : num * c % (den * c) = num % den * c := Nat.mul_mod_mul_right c num den
  have double : 2 * (num % den * c) = 2 * (num % den) * c := by ring
  unfold roundDiv
  simp only [quotient,rest,double,Nat.mul_lt_mul_right some_,Nat.mul_left_inj (Nat.pos_iff_ne_zero.mp some_)]

theorem scaledScale (num den c : Nat) (e : Int) :
    scaled (num * c) (den * c) e = ((scaled num den e).1 * c,(scaled num den e).2 * c) := by
  unfold scaled
  split
  · exact Prod.ext rfl (by simp only []; ring)
  · exact Prod.ext (by simp only []; ring) rfl

theorem scaledBelow {num den : Nat} (some_ : 0 < den) (e : Int) (k : Nat) :
    (scaled num den e).1 < (scaled num den e).2 * 2 ^ k ↔ (num : ℚ) / den < (2 : ℚ) ^ (e + k) := by
  have positive : (0 : ℚ) < den := by exact_mod_cast some_
  rw [div_lt_iff₀ positive]
  unfold scaled
  split
  · rename_i natural
    obtain ⟨n,rfl⟩ := Int.eq_ofNat_of_zero_le natural
    have power : (2 : ℚ) ^ ((n : Int) + k) = 2 ^ n * 2 ^ k := by
      rw [zpow_add₀ two_ne_zero,zpow_natCast,zpow_natCast]
    have cast : ((num : ℚ) < den * 2 ^ n * 2 ^ k) ↔ num < den * 2 ^ n * 2 ^ k := by exact_mod_cast Iff.rfl
    rw [power,Int.toNat_natCast,← cast]
    constructor <;> intro h <;> linarith
  · rename_i below
    obtain ⟨n,rfl⟩ : ∃ n : Nat, e = -(n : Int) := ⟨(-e).toNat,by omega⟩
    have power : (2 : ℚ) ^ (-(n : Int) + k) = 2 ^ k / 2 ^ n := by
      rw [zpow_add₀ two_ne_zero,zpow_neg,zpow_natCast,zpow_natCast]
      ring
    have cast : ((num : ℚ) * 2 ^ n < den * 2 ^ k) ↔ num * 2 ^ n < den * 2 ^ k := by exact_mod_cast Iff.rfl
    have half : (0 : ℚ) < 2 ^ n := by positivity
    rw [power,neg_neg,Int.toNat_natCast,← cast,div_mul_eq_mul_div,lt_div_iff₀ half,mul_comm ((2 : ℚ) ^ k)]

theorem guessBounds {num den : Nat} (top : 0 < num) (bottom : 0 < den) :
    (2 : ℚ) ^ ((Nat.log 2 num : Int) - Nat.log 2 den - 1) ≤ (num : ℚ) / den ∧
      (num : ℚ) / den < (2 : ℚ) ^ ((Nat.log 2 num : Int) - Nat.log 2 den + 1) := by
  have positive : (0 : ℚ) < den := by exact_mod_cast bottom
  have numLow : (2 : ℚ) ^ Nat.log 2 num ≤ num := by exact_mod_cast Nat.pow_log_le_self 2 top.ne'
  have numHigh : (num : ℚ) < 2 ^ (Nat.log 2 num + 1) := by
    exact_mod_cast Nat.lt_pow_succ_log_self (by decide : 1 < 2) num
  have denLow : (2 : ℚ) ^ Nat.log 2 den ≤ den := by exact_mod_cast Nat.pow_log_le_self 2 bottom.ne'
  have denHigh : (den : ℚ) < 2 ^ (Nat.log 2 den + 1) := by
    exact_mod_cast Nat.lt_pow_succ_log_self (by decide : 1 < 2) den
  generalize Nat.log 2 num = a at *
  generalize Nat.log 2 den = b at *
  constructor
  · rw [le_div_iff₀ positive]
    have step : (2 : ℚ) ^ ((a : Int) - b - 1) * den ≤ 2 ^ ((a : Int) - b - 1) * 2 ^ (b + 1) :=
      mul_le_mul_of_nonneg_left denHigh.le (by positivity)
    have joined : (2 : ℚ) ^ ((a : Int) - b - 1) * 2 ^ (b + 1) = 2 ^ a := by
      rw [← zpow_natCast,← zpow_add₀ two_ne_zero,← zpow_natCast]
      congr 1
      push_cast
      ring
    linarith
  · rw [div_lt_iff₀ positive]
    have step : (2 : ℚ) ^ ((a : Int) - b + 1) * 2 ^ b ≤ 2 ^ ((a : Int) - b + 1) * den :=
      mul_le_mul_of_nonneg_left denLow (by positivity)
    have joined : (2 : ℚ) ^ ((a : Int) - b + 1) * 2 ^ b = 2 ^ (a + 1) := by
      rw [← zpow_natCast,← zpow_add₀ two_ne_zero,← zpow_natCast]
      congr 1
      push_cast
      ring
    linarith

theorem logBetween {q : ℚ} {k : Int} (low : (2 : ℚ) ^ k ≤ q) (high : q < (2 : ℚ) ^ (k + 1)) : Int.log 2 q = k := by
  have positive : 0 < q := lt_of_lt_of_le (by positivity) low
  have below : k ≤ Int.log 2 q := (Int.zpow_le_iff_le_log (by decide) positive).mp low
  have above : Int.log 2 q < k + 1 := (Int.lt_zpow_iff_log_lt (by decide) positive).mp high
  omega

theorem exponentLog {num den : Nat} (top : 0 < num) (bottom : 0 < den) :
    exponentOf num den = max (Int.log 2 ((num : ℚ) / den) - 52) (-1074) := by
  obtain ⟨low,high⟩ := guessBounds top bottom
  unfold exponentOf
  simp only [scaledBelow bottom]
  generalize (Nat.log 2 num : Int) - Nat.log 2 den = g at *
  have shift : g - 52 + (52 : Nat) = g := by omega
  rw [shift]
  split
  · rename_i below
    rw [logBetween low (by rw [Int.sub_add_cancel]; exact below)]
    congr 1
    omega
  · rename_i above
    rw [logBetween (not_lt.mp above) high]

theorem exponentScale {num den c : Nat} (top : 0 < num) (bottom : 0 < den) (some_ : 0 < c) :
    exponentOf (num * c) (den * c) = exponentOf num den := by
  rw [exponentLog (Nat.mul_pos top some_) (Nat.mul_pos bottom some_),exponentLog top bottom]
  have factor : (c : ℚ) ≠ 0 := by exact_mod_cast some_.ne'
  push_cast
  rw [mul_div_mul_right _ _ factor]

theorem ratioScale (negative : Bool) (num : Nat) {den c : Nat} (bottom : 0 < den) (some_ : 0 < c) :
    ofRatio negative (num * c) (den * c) = ofRatio negative num den := by
  rcases Nat.eq_zero_or_pos num with rfl | top
  · rw [Nat.zero_mul]
    exact (if_pos rfl).trans (if_pos rfl).symm
  · cases ratio : scaled num den (exponentOf num den) with
    | mk n d =>
      have larger := scaledScale num den c (exponentOf num den)
      rw [ratio] at larger
      exact ratioSame negative (Nat.mul_pos top some_).ne' top.ne' (exponentScale top bottom some_) rfl larger ratio
        (roundDivScale n d some_)

theorem decimalZeros (negative : Bool) (digits k : Nat) :
    ofDecimal negative (digits * 10 ^ (k + 1)) (-1) = ofDecimal negative digits k := by
  unfold ofDecimal
  have below : ¬(0 : Int) ≤ -1 := by decide
  have natural : (0 : Int) ≤ (k : Int) := Int.natCast_nonneg k
  rw [if_neg below,if_pos natural,Int.toNat_natCast]
  have same := @ratioScale negative (digits * 10 ^ k) 1 10 (by decide) (by decide)
  rw [pow_succ,← Nat.mul_assoc]
  exact same

theorem decimalTen (negative : Bool) (power : Int) :
    ofDecimal negative 10 power = ofDecimal negative 1 (power + 1) := by
  unfold ofDecimal
  by_cases natural : 0 ≤ power
  · obtain ⟨k,rfl⟩ := Int.eq_ofNat_of_zero_le natural
    have more : (0 : Int) ≤ (k : Int) + 1 := by omega
    have exponent : ((k : Int) + 1).toNat = k + 1 := by omega
    rw [if_pos natural,if_pos more,Int.toNat_natCast,exponent,pow_succ]
    congr 1
    ring
  · obtain ⟨k,rfl⟩ : ∃ k : Nat, power = -((k : Int) + 1) := ⟨(-power - 1).toNat,by omega⟩
    have exponent : (-(-((k : Int) + 1))).toNat = k + 1 := by omega
    have same := @ratioScale negative 1 (10 ^ k) 10 (by positivity) (by decide)
    rw [if_neg natural,exponent,pow_succ]
    rw [Nat.one_mul] at same
    rw [same]
    cases k with
    | zero =>
      have natural : (0 : Int) ≤ -(((0 : Nat) : Int) + 1) + 1 := by decide
      rw [if_pos natural]
      rfl
    | succ k =>
      have below : ¬(0 : Int) ≤ -(((k + 1 : Nat) : Int) + 1) + 1 := by omega
      have exponent : (-(-(((k + 1 : Nat) : Int) + 1) + 1)).toNat = k + 1 := by omega
      rw [if_neg below,exponent]

theorem decimalZero (negative : Bool) (power : Int) : ofDecimal negative 0 power = .finite negative 0 (-1074) := by
  unfold ofDecimal
  rw [Nat.zero_mul]
  split
  · exact if_pos rfl
  · exact if_pos rfl

theorem nonzeroDigits {negative : Bool} {m digits : Nat} {e power : Int}
    (h : ofDecimal negative digits power = .finite negative (m+1) e) : digits ≠ 0 := by
  rintro rfl
  rw [decimalZero] at h
  have same := (PyFloat.finite.inj h).2.1
  omega

def ZeroNormal (f : PyFloat) : Prop := ∀ negative e, f = .finite negative 0 e → e = -1074

theorem shortestReads {f : PyFloat} {negative : Bool} {digits : Nat} {power : Int}
    (h : f.shortest = some (negative,digits,power)) :
    (digits = 0 → power = 0) ∧ (f.ZeroNormal → ofDecimal negative digits power = f) := by
  cases f with
  | infinite sign => cases h
  | nan => cases h
  | finite sign mantissa e =>
    cases mantissa with
    | zero =>
      cases Option.some.inj h
      refine ⟨fun _ => rfl,fun zero => ?_⟩
      have normal := zero _ e rfl
      rw [decimalZero,normal]
    | succ m =>
      obtain ⟨n,-,found⟩ := List.exists_of_findSome?_eq_some h
      obtain ⟨candidate,-,found⟩ := List.exists_of_findSome?_eq_some found
      split at found
      · rename_i reads
        have nonzero := nonzeroDigits reads
        split at found
        · rename_i ten
          cases Option.some.inj found
          rw [ten,decimalTen] at reads
          exact ⟨fun none_ => absurd none_ (by decide),fun _ => reads⟩
        · cases Option.some.inj found
          exact ⟨fun none_ => absurd none_ nonzero,fun _ => reads⟩
      · cases found

theorem shortestFinite {f : PyFloat} (h : f.shortest ≠ none) : f.isFinite = true := by
  cases f with
  | infinite sign => exact absurd rfl h
  | nan => exact absurd rfl h
  | finite sign mantissa e => rfl

-- 2^1024 - 2^970, halfway between the largest float and the power of two above it.
@[irreducible] def overflow : Nat := (2 ^ 54 - 1) * 2 ^ 970

theorem overflowBounds : 2 ^ 1023 ≤ overflow ∧ overflow ≤ 2 ^ 1024 := by
  have low : (2 : Nat) ^ 1023 = 2 ^ 53 * 2 ^ 970 := by rw [← pow_add]
  have high : (2 : Nat) ^ 1024 = 2 ^ 54 * 2 ^ 970 := by rw [← pow_add]
  unfold overflow
  rw [low,high]
  exact ⟨Nat.mul_le_mul_right _ (by decide),Nat.mul_le_mul_right _ (by decide)⟩

theorem roundDivFull {n d : Nat} (below : n < d * 2 ^ 53) : roundDiv n d = 2 ^ 53 ↔ (2 ^ 54 - 1) * d ≤ 2 * n := by
  have positive : 0 < d := by
    rcases Nat.eq_zero_or_pos d with rfl | positive
    · omega
    · exact positive
  have divided := Nat.div_add_mod n d
  have rest := Nat.mod_lt n positive
  have quotient : n / d < 2 ^ 53 := (Nat.div_lt_iff_lt_mul positive).mpr (by rwa [Nat.mul_comm])
  unfold roundDiv
  simp only []
  generalize n / d = q at *
  generalize n % d = r at *
  by_cases last : q = 2 ^ 53 - 1
  · subst last
    split
    · rename_i up
      omega
    · rename_i down
      omega
  · have less : q ≤ 2 ^ 53 - 2 := by omega
    have product : d * q ≤ d * (2 ^ 53 - 2) := Nat.mul_le_mul_left d less
    split <;> omega

theorem logSmall {num den k : Nat} (top : 0 < num) (bottom : 0 < den) :
    Int.log 2 ((num : ℚ) / den) < k ↔ num < den * 2 ^ k := by
  have positive : (0 : ℚ) < den := by exact_mod_cast bottom
  have ratio : (0 : ℚ) < num / den := div_pos (by exact_mod_cast top) positive
  rw [← Int.lt_zpow_iff_log_lt (by decide) ratio,div_lt_iff₀ positive,zpow_natCast,mul_comm]
  exact_mod_cast Iff.rfl

theorem scaledNatural (num den k : Nat) : scaled num den k = (num,den * 2 ^ k) := by
  unfold scaled
  rw [if_pos (Int.natCast_nonneg k),Int.toNat_natCast]

theorem ratioFinite (negative : Bool) (num : Nat) {den : Nat} (bottom : 0 < den) :
    (ofRatio negative num den).isFinite = true ↔ num < overflow * den := by
  rcases Nat.eq_zero_or_pos num with rfl | top
  · have zero : (ofRatio negative 0 den).isFinite = true := rfl
    exact iff_of_true zero (Nat.mul_pos (Nat.lt_of_lt_of_le (Nat.two_pow_pos _) overflowBounds.1) bottom)
  have exponent := exponentLog top bottom
  by_cases small : Int.log 2 ((num : ℚ) / den) < (1023 : Nat)
  · -- The mantissa may round up to the next power of two, which is a float still.
    have low := (logSmall top bottom).mp small
    have within : num < overflow * den := by
      have twice : den * 2 ^ 1023 ≤ overflow * den := by
        rw [Nat.mul_comm]
        exact Nat.mul_le_mul_right den overflowBounds.1
      omega
    refine iff_of_true ?_ within
    rcases ratio : scaled num den (exponentOf num den) with ⟨n,d⟩
    rw [ratioRounded negative top.ne' rfl ratio]
    simp only []
    rw [if_neg]
    · rfl
    · split <;> simp only [] <;> omega
  by_cases large : Int.log 2 ((num : ℚ) / den) < (1024 : Nat)
  · -- Here the exponent is the largest one, and rounding up is an overflow.
    have high := (logSmall top bottom).mp large
    have last : exponentOf num den = 971 := by omega
    have ratio : scaled num den 971 = (num,den * 2 ^ 971) := by exact_mod_cast scaledNatural num den 971
    have full : roundDiv num (den * 2 ^ 971) = 2 ^ 53 ↔ (2 ^ 54 - 1) * (den * 2 ^ 971) ≤ 2 * num := by
      have joined : (2 : Nat) ^ 971 * 2 ^ 53 = 2 ^ 1024 := by rw [← pow_add]
      rw [← joined,← Nat.mul_assoc] at high
      exact roundDivFull high
    have edge : (2 ^ 54 - 1) * (den * 2 ^ 971) = 2 * (overflow * den) := by
      unfold overflow
      rw [pow_succ 2 970]
      generalize 2 ^ 970 = power
      ring
    rw [edge] at full
    rw [ratioRounded negative top.ne' last ratio]
    simp only []
    by_cases up : roundDiv num (den * 2 ^ 971) = 2 ^ 53
    · have beyond := full.mp up
      rw [if_pos up]
      exact iff_of_false Bool.false_ne_true (by omega)
    · have below : ¬2 * (overflow * den) ≤ 2 * num := fun beyond => up (full.mpr beyond)
      rw [if_neg up]
      exact iff_of_true rfl (by omega)
  · have high : den * 2 ^ 1024 ≤ num := by
      by_contra below
      exact large ((logSmall top bottom).mpr (Nat.lt_of_not_le below))
    have beyond : overflow * den ≤ num := by
      refine le_trans ?_ high
      rw [Nat.mul_comm]
      exact Nat.mul_le_mul_left den overflowBounds.2
    refine iff_of_false ?_ (not_lt.mpr beyond)
    rcases ratio : scaled num den (exponentOf num den) with ⟨n,d⟩
    rw [ratioRounded negative top.ne' rfl ratio]
    simp only []
    rw [if_pos]
    · exact Bool.false_ne_true
    · split <;> simp only [] <;> omega

end PgLlmBatch.Base.PyFloat
