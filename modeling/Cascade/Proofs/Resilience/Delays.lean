import Mathlib.Algebra.GroupWithZero.Nat
import Cascade.Resilience.Backoff

/-!
# When there is a wait

The wait after an attempt is capped, but only once it has been computed, and a power that lies
beyond the doubles has no value.  So waits that grow exponentially come to an end.  This file finds
the last one for the default settings, under which the wait doubles: there are 1024 of them
(`exists_delay_default`, `delay_default_of_lt`).

A fraction equal to a power of two is rounded to that power itself (`nearestFloat_two_pow`), so the
powers of two are computed without loss up to the last one that is a double
(`finitePower_two_of_lt`).
-/

namespace Cascade

/-! ## Powers of two -/

/-- A fraction equal to a power of two is rounded to that power. -/
lemma nearestFloat_two_pow (negative : Bool) (m k : Nat) :
    nearestFloat negative (2 ^ (m + k)) (2 ^ m) = packFloat negative (2 ^ 52) (k - 52) := by
  have hquotient : 2 ^ (m + k) * 2 ^ (-((k : Int) - 52)).toNat =
      2 ^ 52 * (2 ^ m * 2 ^ ((k : Int) - 52).toNat) := by
    simp only [← Nat.pow_add]
    congr 1
    omega
  have hpos : 0 < 2 ^ m * 2 ^ ((k : Int) - 52).toNat :=
    Nat.mul_pos (Nat.two_pow_pos _) (Nat.two_pow_pos _)
  have hguess : ((m + k : Nat) : Int) - (m : Nat) - 52 = k - 52 := by omega
  have hmax : max ((k : Int) - 52) (-1074) = k - 52 := by omega
  have hnonzero : 2 ^ (m + k) ≠ 0 := Nat.pos_iff_ne_zero.mp (Nat.two_pow_pos _)
  -- nothing is left over, so the quotient stays as it is
  have hrest : ∀ d, 0 < d → ¬(2 * 0 > d ∨ 2 * 0 = d ∧ 2 ^ 52 % 2 = 1) := by omega
  have hbits : (2 : Nat) ^ 52 ≠ 2 ^ 53 := by decide
  simp only [nearestFloat, Nat.log2_two_pow, hguess, Nat.pow_eq, hquotient, if_neg hnonzero,
    Nat.mul_div_cancel _ hpos, Nat.lt_irrefl, if_false, hmax, Nat.mul_mod_left,
    if_neg (hrest _ hpos), if_neg hbits]

lemma floatParts_two : floatParts 2.0 = .finite ⟨false, 2 ^ 52, -51⟩ := by decide +kernel

/-- The powers of two that are doubles are finite: one case for each exponent. -/
lemma isInf_packFloat_two_pow :
    ∀ k : Nat, k < 1024 → (packFloat false (2 ^ 52) ((k : Int) - 52)).isInf = false := by
  decide +kernel

/-- A power of two beyond the doubles has no value. -/
lemma finitePower_two_of_le {k : Nat} (h : 1024 ≤ k) :
    finitePower ⟨false, 2 ^ 52, -51⟩ false k = .error .overflow := by
  have hleast : (1024 : Int) ≤ ((52 : Nat) + 1 + (-51) - 1) * k := by omega
  have hbase : (-51 : Int) ≠ -52 := by decide
  simp only [finitePower, Nat.log2_two_pow, hbase, and_false, Bool.false_eq_true, if_false,
    if_pos hleast]

/-- The others are computed without loss. -/
lemma finitePower_two_of_lt {k : Nat} (h : k < 1024) :
    finitePower ⟨false, 2 ^ 52, -51⟩ false k = .ok (packFloat false (2 ^ 52) (k - 52)) := by
  have hleast : ¬(1024 : Int) ≤ ((52 : Nat) + 1 + (-51) - 1) * k := by omega
  have hgreatest : ¬((52 : Nat) + 1 + (-51 : Int)) * k < -1080 := by omega
  have hbase : (-51 : Int) ≠ -52 := by decide
  have habove : (2 ^ 52) ^ k * 2 ^ ((-51 : Int) * k).toNat = 2 ^ (51 * k + k) := by
    have hzero : ((-51 : Int) * k).toNat = 0 := by omega
    rw [hzero, Nat.pow_zero, Nat.mul_one, ← Nat.pow_mul]
    congr 1
    omega
  have hbelow : (-((-51 : Int) * k)).toNat = 51 * k := by omega
  simp only [finitePower, Nat.log2_two_pow, hbase, and_false, Bool.false_eq_true, if_false,
    if_neg hleast, if_neg hgreatest, Nat.pow_eq, habove, hbelow, Bool.false_and,
    nearestFloat_two_pow, isInf_packFloat_two_pow k h]

/-! ## The default settings -/

namespace Backoff

lemma exists_delay_iff {b : Backoff} {u : Float} {attempt : Int} :
    (∃ d, b.delay u attempt = .ok d) ↔ ∃ wait, b.growthAt attempt = .ok wait := by
  unfold delay
  cases b.growthAt attempt <;> simp [Except.map]

/-- The power that the default settings multiply by after an attempt. -/
lemma growthAt_default (k : Nat) :
    ({} : Backoff).growthAt (k + 1 : Nat) =
      (if k = 0 then .ok 1.0 else finitePower ⟨false, 2 ^ 52, -51⟩ false k).map (1.0 * ·) := by
  have hk : ((k + 1 : Nat) : Int) - 1 = k := by omega
  have hnonzero : (2 ^ 52 : Nat) ≠ 0 := by decide
  have hnonneg : ¬(k : Int) < 0 := by omega
  simp only [growthAt, hk, floatPower, floatParts_two, if_neg hnonzero, Int.natCast_eq_zero,
    Int.natAbs_natCast, hnonneg, decide_false]

/-- After the first 1024 attempts there is a wait. -/
lemma exists_delay_default (u : Float) {attempt : Nat} (hpos : 1 ≤ attempt)
    (hle : attempt ≤ 1024) : ∃ d, ({} : Backoff).delay u attempt = .ok d := by
  obtain ⟨k, rfl⟩ : ∃ k, attempt = k + 1 := ⟨attempt - 1, by omega⟩
  rw [exists_delay_iff, growthAt_default]
  by_cases hk : k = 0
  · exact ⟨_, by rw [if_pos hk]; rfl⟩
  · exact ⟨_, by rw [if_neg hk, finitePower_two_of_lt (by omega)]; rfl⟩

/-- After the others there is none, though it would be capped. -/
lemma delay_default_of_lt (u : Float) {attempt : Nat} (h : 1024 < attempt) :
    ({} : Backoff).delay u attempt = .error .overflow := by
  obtain ⟨k, rfl⟩ : ∃ k, attempt = k + 1 := ⟨attempt - 1, by omega⟩
  rw [delay, growthAt_default, if_neg (by omega), finitePower_two_of_le (by omega)]
  rfl

end Backoff

end Cascade
