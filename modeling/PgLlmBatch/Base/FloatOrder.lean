import PgLlmBatch.Base.FloatArithmetic

/-! Comparisons of floats are comparisons of their places on the extended rational line, from
which their order laws follow. What a product, a halving and a power of two are. -/
namespace PgLlmBatch.Base.PyFloat

def valueOf (negative : Bool) (mantissa : Nat) (exponent : Int) : ℚ :=
  (if negative then -1 else 1) * mantissa * 2 ^ exponent

def place : PyFloat → WithBot (WithTop ℚ)
  | .finite a m e => ((valueOf a m e : ℚ) : WithTop ℚ)
  | .infinite true => ⊥
  | .infinite false => ((⊤ : WithTop ℚ) : WithBot (WithTop ℚ))
  | .nan => ⊥

theorem unitsValue {low e : Int} (below : low ≤ e) (a : Bool) (m : Nat) :
    ((unitsOver low a m e : Int) : ℚ) * 2 ^ low = valueOf a m e := by
  obtain ⟨k,rfl⟩ : ∃ k : Nat, e = low + k := ⟨(e - low).toNat,by omega⟩
  have power : (2 : ℚ) ^ (low + (k : Int)) = 2 ^ k * 2 ^ low := by
    rw [zpow_add₀ two_ne_zero,zpow_natCast,mul_comm]
  have difference : (low + (k : Int) - low).toNat = k := by omega
  unfold unitsOver valueOf
  rw [difference,power]
  cases a
  · simp only [Bool.false_eq_true,if_false]
    push_cast
    ring
  · simp only [if_true]
    push_cast
    ring

theorem unitsLt (a b : Bool) (m n : Nat) (e f : Int) :
    unitsOver (min e f) a m e < unitsOver (min e f) b n f ↔ valueOf a m e < valueOf b n f := by
  have unit : (0 : ℚ) < 2 ^ min e f := by positivity
  rw [← unitsValue (min_le_left e f) a m,← unitsValue (min_le_right e f) b n,mul_lt_mul_iff_of_pos_right unit,Int.cast_lt]

theorem ltPlace {a b : PyFloat} : a.lt b = true ↔ a.isNan = false ∧ b.isNan = false ∧ a.place < b.place := by
  cases a with
  | nan => simp [lt,isNan]
  | infinite a =>
    cases b with
    | nan => simp [lt,isNan]
    | infinite b => cases a <;> cases b <;> simp [lt,isNan,place]
    | finite b n f => cases a <;> simp [lt,isNan,place]
  | finite a m e =>
    cases b with
    | nan => simp [lt,isNan]
    | infinite b =>
      cases b with
      | true => simp [lt,isNan,place]
      | false =>
        have below : (finite a m e).place < (infinite false).place := WithBot.coe_lt_coe.mpr (WithTop.coe_lt_top _)
        exact iff_of_true rfl ⟨rfl,rfl,below⟩
    | finite b n f => simp only [lt,isNan,place,decide_eq_true_eq,unitsLt,WithBot.coe_lt_coe,WithTop.coe_lt_coe,true_and]

theorem lePlace {a b : PyFloat} : a.le b = true ↔ a.isNan = false ∧ b.isNan = false ∧ a.place ≤ b.place := by
  unfold le
  cases left : a.isNan with
  | true => simp
  | false =>
    cases right : b.isNan with
    | true => simp
    | false =>
      simp only [Bool.not_false,Bool.true_and,Bool.not_eq_true',true_and,← not_lt]
      rw [← Bool.not_eq_true,ltPlace]
      simp [left,right]

theorem leTrans {a b c : PyFloat} (first : a.le b = true) (second : b.le c = true) : a.le c = true := by
  obtain ⟨number,-,below⟩ := lePlace.mp first
  obtain ⟨-,other,above⟩ := lePlace.mp second
  exact lePlace.mpr ⟨number,other,below.trans above⟩

theorem leRefl {a : PyFloat} (number : a.isNan = false) : a.le a = true := lePlace.mpr ⟨number,number,le_refl _⟩

theorem ltLe {a b : PyFloat} (below : a.lt b = true) : a.le b = true := by
  obtain ⟨number,other,below⟩ := ltPlace.mp below
  exact lePlace.mpr ⟨number,other,below.le⟩

theorem notLtLe {a b : PyFloat} (number : a.isNan = false) (other : b.isNan = false) (above : a.lt b = false) :
    b.le a = true := by
  unfold le
  simp [number,other,above]

theorem notLeLt {a b : PyFloat} (number : a.isNan = false) (other : b.isNan = false) (above : a.le b = false) :
    b.lt a = true := by
  unfold le at above
  simpa [number,other] using above

theorem minimumLe {a b : PyFloat} (number : a.isNan = false) (other : b.isNan = false) : (a.minimum b).le b = true := by
  unfold minimum
  split
  · exact leRefl other
  · rename_i above
    exact notLtLe other number (Bool.not_eq_true _ ▸ above)

theorem leMaximum {a b : PyFloat} (number : a.isNan = false) : a.le (a.maximum b) = true := by
  unfold maximum
  split
  · rename_i below
    exact ltLe below
  · exact leRefl number

theorem cappedForm (negative : Bool) (value : Nat × Int) :
    (if 971 < value.2 then .infinite negative else .finite negative value.1 value.2) = PyFloat.infinite negative ∨
      ∃ m e, (if 971 < value.2 then .infinite negative else .finite negative value.1 value.2) = PyFloat.finite negative m e := by
  by_cases large : 971 < value.2
  · exact .inl (if_pos large)
  · exact .inr ⟨_,_,if_neg large⟩

theorem ratioForm (negative : Bool) (num den : Nat) :
    ofRatio negative num den = .infinite negative ∨ ∃ m e, ofRatio negative num den = .finite negative m e := by
  by_cases top : num = 0
  · subst top
    exact .inr ⟨0,_,if_pos rfl⟩
  · rcases ratio : scaled num den (exponentOf num den) with ⟨n,d⟩
    rw [ratioRounded negative top rfl ratio]
    exact cappedForm negative _

theorem ratioNumber (negative : Bool) (num den : Nat) : (ofRatio negative num den).isNan = false := by
  obtain large | ⟨m,e,value⟩ := ratioForm negative num den
  · rw [large]
    rfl
  · rw [value]
    rfl

theorem zeroLeFinite (m : Nat) (e : Int) : zero.le (.finite false m e) = true := by
  refine lePlace.mpr ⟨rfl,rfl,?_⟩
  have positive : (0 : ℚ) ≤ valueOf false m e := by
    unfold valueOf
    simp only [Bool.false_eq_true,if_false,one_mul]
    positivity
  have least : valueOf false 0 (-1074) = 0 := by simp [valueOf]
  unfold zero place
  rw [WithBot.coe_le_coe,WithTop.coe_le_coe,least]
  exact positive

theorem zeroLeRatio (num den : Nat) : zero.le (ofRatio false num den) = true := by
  obtain large | ⟨m,e,value⟩ := ratioForm false num den
  · rw [large]
    rfl
  · rw [value]
    exact zeroLeFinite m e

theorem zeroLeDecimal (digits : Nat) (power : Int) : zero.le (ofDecimal false digits power) = true := by
  unfold ofDecimal
  split <;> exact zeroLeRatio _ _

theorem roundedNumber (negative : Bool) (m : Nat) (e : Int) : (rounded negative m e).isNan = false := by
  unfold rounded
  split <;> exact ratioNumber _ _ _

theorem mulNumber {a b : PyFloat} (finite : a.isFinite = true) (other : b.isFinite = true) : (a.mul b).isNan = false := by
  cases a with
  | nan => cases finite
  | infinite a => cases finite
  | finite a m e =>
    cases b with
    | nan => cases other
    | infinite b => cases other
    | finite b n f => exact roundedNumber _ _ _

theorem finiteNumber {a : PyFloat} (finite : a.isFinite = true) : a.isNan = false := by
  cases a with
  | nan => cases finite
  | infinite a => cases finite
  | finite a m e => rfl

theorem zeroLeRounded (m : Nat) (e : Int) : zero.le (rounded false m e) = true := by
  unfold rounded
  split <;> exact zeroLeRatio _ _

theorem negativeLe (m : Nat) (e : Int) : valueOf true m e ≤ 0 := by
  have size : (0 : ℚ) ≤ m * 2 ^ e := by positivity
  unfold valueOf
  simp only [if_true]
  linarith

theorem zeroLeHalf {a : PyFloat} (positive : zero.lt a = true) : zero.le a.half = true := by
  cases a with
  | nan => cases positive
  | infinite negative => 
    cases negative with
    | true => cases positive
    | false => rfl
  | finite negative m e =>
    cases negative with
    | false => exact zeroLeRounded m (e - 1)
    | true =>
      obtain ⟨-,-,positive⟩ := ltPlace.mp positive
      have least : valueOf false 0 (-1074) = 0 := by simp [valueOf]
      unfold zero place at positive
      rw [WithBot.coe_lt_coe,WithTop.coe_lt_coe,least] at positive
      exact absurd positive (not_lt.mpr (negativeLe m e))

theorem powerExponent (k : Nat) : exponentOf (2 ^ k) 1 = (k : Int) - 52 := by
  unfold exponentOf
  rw [Nat.log_pow (by decide),Nat.log_one_right]
  unfold scaled
  simp only [Nat.cast_zero,sub_zero]
  by_cases large : (0 : Int) ≤ (k : Int) - 52
  · obtain ⟨n,rfl⟩ : ∃ n : Nat, k = n + 52 := ⟨k - 52,by omega⟩
    have difference : (((n + 52 : Nat) : Int) - 52).toNat = n := by omega
    simp only [if_pos large,difference]
    rw [if_neg (by rw [one_mul,← pow_add]; exact lt_irrefl _)]
    omega
  · obtain ⟨n,same⟩ : ∃ n : Nat, k + n = 52 := ⟨52 - k,by omega⟩
    have difference : (-((k : Int) - 52)).toNat = n := by omega
    simp only [if_neg large,difference]
    rw [if_neg (by rw [one_mul,← pow_add,same]; exact lt_irrefl _)]
    omega

theorem powerScaled (k : Nat) : ∃ n d, scaled (2 ^ k) 1 ((k : Int) - 52) = (n,d) ∧ roundDiv n d = 2 ^ 52 := by
  unfold scaled
  by_cases large : (0 : Int) ≤ (k : Int) - 52
  · obtain ⟨n,rfl⟩ : ∃ n : Nat, k = n + 52 := ⟨k - 52,by omega⟩
    have difference : (((n + 52 : Nat) : Int) - 52).toNat = n := by omega
    refine ⟨_,_,if_pos large,?_⟩
    rw [difference,one_mul]
    unfold roundDiv
    have quotient : 2 ^ (n + 52) / 2 ^ n = 2 ^ 52 := by
      rw [pow_add,Nat.mul_div_cancel_left _ (by positivity)]
    have rest : 2 ^ (n + 52) % 2 ^ n = 0 := by rw [pow_add,Nat.mul_mod_right]
    have positive : 0 < 2 ^ n := by positivity
    simp only [quotient,rest]
    rw [if_neg]
    omega
  · obtain ⟨n,same⟩ : ∃ n : Nat, k + n = 52 := ⟨52 - k,by omega⟩
    have difference : (-((k : Int) - 52)).toNat = n := by omega
    refine ⟨_,_,if_neg large,?_⟩
    rw [difference,← pow_add,same]
    decide

theorem powerRatio (k : Nat) : ofRatio false (2 ^ k) 1 =
    if 971 < (k : Int) - 52 then .infinite false else .finite false (2 ^ 52) ((k : Int) - 52) := by
  obtain ⟨n,d,ratio,mantissa⟩ := powerScaled k
  have whole : ¬(2 ^ 52 : Nat) = 2 ^ 53 := by decide
  rw [ratioRounded false (Nat.pos_iff_ne_zero.mp (Nat.two_pow_pos k)) (powerExponent k) ratio,mantissa]
  simp only [if_neg whole]

theorem powerFloat (k : Nat) : ofInt (2 ^ k) = if k ≤ 1023 then some (.finite false (2 ^ 52) ((k : Int) - 52)) else none := by
  have positive : ¬((2 : Int) ^ k < 0) := not_lt.mpr (by positivity)
  have magnitude : ((2 : Int) ^ k).natAbs = 2 ^ k := by
    rw [Int.natAbs_pow]
    rfl
  unfold ofInt
  rw [magnitude,decide_eq_false positive,powerRatio]
  by_cases small : k ≤ 1023
  · rw [if_pos small,if_neg (by omega)]
  · rw [if_neg small,if_pos (by omega)]

end PgLlmBatch.Base.PyFloat
