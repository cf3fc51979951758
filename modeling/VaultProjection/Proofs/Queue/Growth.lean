import Mathlib.Algebra.Group.Nat.Defs
import VaultProjection.Backoff

/-!
# How delays grow

Delays double with the failures as long as the power of two fits in 32 bits; from then on they stay
as they are. So whether they go on up to the maximum depends on the base: the largest factor must
bring it there. A product that is too long for a span of time is no obstacle, for the maximum is
shorter than that.

Results:
1. `delay_nanos`: a delay is the base times the factor, up to the maximum.
2. `delay_eq_doubled_iff`: which delays are those of the doubling sequence in unbounded numbers.
3. `doubles_iff`: when delays double up to the maximum, and what they do otherwise.
-/

namespace VaultProjection.Backoff

variable {b : Backoff} {m n : Nat}

/-! ## Factors -/

/-- The largest factor. -/
def maxFactor : Nat := 2 ^ 32 - 1

theorem factor_of_lt (h : n < 32) : factor n = 2 ^ n := if_pos h

theorem factor_of_le (h : 32 ≤ n) : factor n = maxFactor := if_neg (Nat.not_lt.2 h)

theorem factor_le_max (n : Nat) : factor n ≤ maxFactor := by
  by_cases h : n < 32
  · rw [factor_of_lt h]
    have hle : 2 ^ n ≤ 2 ^ 31 := Nat.pow_le_pow_right (by decide) (by omega)
    exact Nat.le_trans hle (by decide)
  · exact Nat.le_of_eq (factor_of_le (Nat.not_lt.1 h))

theorem factor_mono (h : m ≤ n) : factor m ≤ factor n := by
  by_cases hn : n < 32
  · rw [factor_of_lt hn, factor_of_lt (Nat.lt_of_le_of_lt h hn)]
    exact Nat.pow_le_pow_right (by decide) h
  · rw [factor_of_le (Nat.not_lt.1 hn)]
    exact factor_le_max m

/-- Beyond 32 bits the factor falls behind the power of two. -/
theorem max_lt_pow (h : 32 ≤ n) : maxFactor < 2 ^ n := by
  have hle : 2 ^ 32 ≤ 2 ^ n := Nat.pow_le_pow_right (by decide) h
  exact Nat.lt_of_lt_of_le (by decide) hle

/-! ## Delays -/

theorem delay_le_max (b : Backoff) (n : Nat) : (b.delay n).nanos ≤ b.max.nanos := by
  unfold delay
  split
  · exact Nat.le_refl _
  · exact Nat.min_le_right _ _

/-- A delay is the base times the factor, up to a maximum that is a span of time. -/
theorem delay_nanos (hmax : b.max.nanos < Duration.limit) (n : Nat) :
    (b.delay n).nanos = min (b.base.nanos * factor n) b.max.nanos := by
  unfold delay Duration.times?
  by_cases hfits : b.base.nanos * factor n < Duration.limit
  · rw [if_pos hfits]
    rfl
  · rw [if_neg hfits]
    exact (Nat.min_eq_right (Nat.le_trans (Nat.le_of_lt hmax) (Nat.not_lt.1 hfits))).symm

/-- A larger factor makes no smaller delay. -/
theorem delay_le_of_factor_le (b : Backoff) (h : factor m ≤ factor n) :
    (b.delay m).nanos ≤ (b.delay n).nanos := by
  have hmul : b.base.nanos * factor m ≤ b.base.nanos * factor n := Nat.mul_le_mul_left _ h
  by_cases hn : b.base.nanos * factor n < Duration.limit
  · have hm := Nat.lt_of_le_of_lt hmul hn
    simp only [delay, Duration.times?, if_pos hm, if_pos hn]
    exact Nat.le_min.2 ⟨Nat.le_trans (Nat.min_le_left _ _) hmul, Nat.min_le_right _ _⟩
  · have hmax : b.delay n = b.max := by simp only [delay, Duration.times?, if_neg hn]
    rw [hmax]
    exact b.delay_le_max m

theorem delay_mono (b : Backoff) (h : m ≤ n) : (b.delay m).nanos ≤ (b.delay n).nanos :=
  b.delay_le_of_factor_le (factor_mono h)

theorem delay_eq_max_iff : b.delay n = b.max ↔ b.max.nanos ≤ (b.delay n).nanos := by
  refine ⟨fun h => Nat.le_of_eq (congrArg Duration.nanos h).symm, fun h => ?_⟩
  exact congrArg Duration.mk (Nat.le_antisymm (b.delay_le_max n) h)

/-- What has reached the maximum stays there. -/
theorem delay_stays (hn : b.delay n = b.max) (h : n ≤ m) : b.delay m = b.max := by
  rw [delay_eq_max_iff] at hn ⊢
  exact Nat.le_trans hn (b.delay_mono h)

/-! ## The doubling sequence -/

/-- The base doubled for every failure, up to the maximum, in unbounded numbers. -/
def doubled (b : Backoff) (failures : Nat) : Nat := min (b.base.nanos * 2 ^ failures) b.max.nanos

/-- The largest factor brings the base to the maximum, or there is nothing to double. -/
def Spans (b : Backoff) : Prop := b.base.nanos = 0 ∨ b.max.nanos ≤ b.base.nanos * maxFactor

/-- Two factors make the same delay exactly if they are equal, or nothing is doubled, or the smaller
one reaches the maximum. -/
theorem min_mul_eq_iff {base max k l : Nat} (h : k < l) :
    min (base * k) max = min (base * l) max ↔ base = 0 ∨ max ≤ base * k := by
  rcases Nat.eq_zero_or_pos base with rfl | hpos
  · simp
  · have hlt : base * k < base * l := Nat.mul_lt_mul_of_pos_left h hpos
    omega

theorem delay_eq_doubled_iff (hmax : b.max.nanos < Duration.limit) :
    (b.delay n).nanos = b.doubled n ↔ n < 32 ∨ b.Spans := by
  rw [delay_nanos hmax, doubled]
  by_cases hn : n < 32
  · simp only [factor_of_lt hn, hn, true_or]
  · have hlarge := Nat.not_lt.1 hn
    rw [factor_of_le hlarge, min_mul_eq_iff (max_lt_pow hlarge)]
    simp only [Spans, hn, false_or]

theorem delay_succ_iff (hmax : b.max.nanos < Duration.limit) :
    (b.delay (n + 1)).nanos = min (2 * (b.delay n).nanos) b.max.nanos ↔ n + 1 < 32 ∨ b.Spans := by
  have htwice : min (2 * (b.delay n).nanos) b.max.nanos =
      min (b.base.nanos * (2 * factor n)) b.max.nanos := by
    rw [delay_nanos hmax, Nat.mul_left_comm]
    omega
  rw [delay_nanos hmax, htwice]
  by_cases hn : n + 1 < 32
  · have hpow : 2 * factor n = 2 ^ (n + 1) := by
      rw [factor_of_lt (by omega), Nat.pow_succ, Nat.mul_comm]
    simp only [factor_of_lt hn, hpow, hn, true_or]
  · have hlt : maxFactor < 2 * factor n := by
      have hfactor : 2 ^ 31 ≤ factor n := factor_mono (show 31 ≤ n by omega)
      exact Nat.lt_of_lt_of_le (by decide) (Nat.mul_le_mul_left 2 hfactor)
    rw [factor_of_le (Nat.not_lt.1 hn), min_mul_eq_iff hlt]
    simp only [Spans, hn, false_or]

/-- Delays reach the maximum exactly if the largest factor brings the base there. -/
theorem exists_delay_eq_max_iff (hmax : b.max.nanos < Duration.limit) :
    (∃ n, b.delay n = b.max) ↔ b.max.nanos ≤ b.base.nanos * maxFactor := by
  constructor
  · rintro ⟨n, hn⟩
    rw [delay_eq_max_iff, delay_nanos hmax] at hn
    have hmul := Nat.mul_le_mul_left b.base.nanos (factor_le_max n)
    omega
  · intro h
    refine ⟨32, delay_eq_max_iff.2 ?_⟩
    rw [delay_nanos hmax, factor_of_le (Nat.le_refl 32)]
    omega

/-! ## Main result -/

/-- The delay is that of the doubling sequence up to 31 failures, and beyond them exactly if the
base is zero or the largest factor of 32 bits brings it to the maximum; every failure doubles the
delay, up to the maximum, under the same condition. Where it does not hold, the delay stays at the
base times that factor from 32 failures on, below the maximum for ever. In any case delays never
shrink, never exceed the maximum and stay there when they have reached it. -/
theorem doubles_iff (b : Backoff) (hmax : b.max.nanos < Duration.limit) :
    (∀ n, (b.delay n).nanos = b.doubled n ↔ n < 32 ∨ b.Spans) ∧
    (∀ n, (b.delay (n + 1)).nanos = min (2 * (b.delay n).nanos) b.max.nanos ↔
      n + 1 < 32 ∨ b.Spans) ∧
    (¬ b.Spans → ∀ n, 32 ≤ n → (b.delay n).nanos = b.base.nanos * maxFactor ∧
      (b.delay n).nanos < b.max.nanos) ∧
    ((∃ n, b.delay n = b.max) ↔ b.max.nanos ≤ b.base.nanos * maxFactor) ∧
    (∀ m n, m ≤ n → (b.delay m).nanos ≤ (b.delay n).nanos) ∧
    (∀ n, (b.delay n).nanos ≤ b.max.nanos) ∧
    ∀ m n, b.delay m = b.max → m ≤ n → b.delay n = b.max := by
  refine ⟨fun n => delay_eq_doubled_iff hmax, fun n => delay_succ_iff hmax, ?_,
    exists_delay_eq_max_iff hmax, fun m n => b.delay_mono, b.delay_le_max,
    fun m n => delay_stays⟩
  intro hspans n hn
  simp only [Spans, not_or, Nat.not_le] at hspans
  rw [delay_nanos hmax, factor_of_le hn]
  omega

/-- A millisecond is doubled to forty-nine days and some hours, and never to the hundred and fifteen
days that are allowed: the delay after 32 failures is a millisecond short of twice the one before,
and after that it does not grow. -/
theorem doubles_iff_millisecond :
    let b : Backoff := ⟨.ofMillis 1, .ofSeconds 10000000⟩
    b.max.nanos < Duration.limit ∧ ¬ b.Spans ∧ b.delay 31 = .ofMillis (2 ^ 31) ∧
      b.delay 32 = .ofMillis (2 ^ 32 - 1) ∧ b.doubled 32 = (Duration.ofMillis (2 ^ 32)).nanos ∧
      (b.delay 32).nanos ≠ b.doubled 32 ∧ ∀ n, b.delay n ≠ b.max := by
  intro b
  have hmax : b.max.nanos < Duration.limit := by decide
  have hspans : ¬ b.Spans := by
    rintro (h | h)
    · exact absurd h (by decide)
    · exact absurd h (by decide)
  obtain ⟨hexact, -, -, hreach, -⟩ := doubles_iff b hmax
  refine ⟨hmax, hspans, by decide +kernel, by decide +kernel, by decide +kernel, ?_, ?_⟩
  · rw [Ne, hexact]
    simpa using hspans
  · intro n hn
    exact absurd (hreach.1 ⟨n, hn⟩) (by decide)

end VaultProjection.Backoff
