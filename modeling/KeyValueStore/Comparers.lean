import KeyValueStore.Service
import Mathlib.Algebra.Order.Group.Unbundled.Int

set_option autoImplicit false

/-!
# The comparers the engine votes with

`byteComparer` and `booleanComparer` are equality on the values their operators return.
`durationComparer` accepts two durations less than `acceptableDurationDiff` apart, to absorb the
skew between replicas' countdowns. That relation is reflexive and symmetric but not
transitive, and the comparer computes the distance in 64-bit arithmetic: `x - y` and `-diff`
wrap around, so it is exact only while the difference fits in an `int64`.
-/

namespace KeyValueStore

@[simp] theorem byteComparer_bytes (a b : Bytes) :
    byteComparer (.bytes a) (.bytes b) = .ok (a == b) := rfl

@[simp] theorem booleanComparer_bool (a b : Bool) :
    booleanComparer (.bool a) (.bool b) = .ok (a == b) := rfl

theorem byteComparer_eq {x y : Value} (h : byteComparer x y = .ok true) : y = x := by
  cases x <;> cases y <;> simp_all [byteComparer, Value.asBytes, bind, Except.bind, pure,
    Except.pure]

theorem booleanComparer_eq {x y : Value} (h : booleanComparer x y = .ok true) : y = x := by
  cases x <;> cases y <;> simp_all [booleanComparer, Value.asBool, bind, Except.bind, pure,
    Except.pure]

theorem toInt_range (x : Duration) : -2^63 ≤ x.toInt ∧ x.toInt < 2^63 := by
  have := x.isLt
  rw [BitVec.toInt_eq_toNat_cond]
  split <;> omega

theorem slt_zero_iff (d : Duration) : d.slt 0 = true ↔ d.toInt < 0 := by
  simp [BitVec.slt, show (0 : Duration).toInt = 0 from rfl]

theorem toInt_neg_duration (d : Duration) :
    (-d).toInt = if d.toInt = -2^63 then -2^63 else -d.toInt := by
  have hr := toInt_range d
  rw [BitVec.toInt_neg, Int.bmod_def]
  split <;> split <;> omega

theorem toInt_sub_duration (a b : Duration) (h : -2^63 ≤ a.toInt - b.toInt ∧ a.toInt - b.toInt < 2^63) :
    (a - b).toInt = a.toInt - b.toInt := by
  rw [BitVec.toInt_sub, Int.bmod_def]
  split <;> omega

/-- `if diff < 0 { diff = -diff }`, in 64 bits. -/
def absDiff (diff : Duration) : Duration :=
  if diff.slt 0 then -diff else diff

theorem absDiff_toInt (d : Duration) :
    (absDiff d).toInt = if d.toInt = -2^63 then -2^63 else (d.toInt.natAbs : Int) := by
  have hr := toInt_range d
  unfold absDiff
  split
  · rename_i h
    rw [slt_zero_iff] at h
    rw [toInt_neg_duration]
    split <;> omega
  · rename_i h
    rw [slt_zero_iff] at h
    split <;> omega

theorem absDiff_neg (d : Duration) : absDiff (-d) = absDiff d := by
  apply BitVec.toInt_inj.mp
  rw [absDiff_toInt, absDiff_toInt, toInt_neg_duration]
  have hr := toInt_range d
  split <;> split <;> omega

/-- On two non-nil durations the comparer is the 64-bit distance test. -/
theorem durationComparer_some (a b : Duration) :
    durationComparer (.duration (some a)) (.duration (some b)) =
      .ok ((absDiff (a - b)).slt acceptableDurationDiff) := rfl

theorem durationComparer_refl (a : Duration) :
    durationComparer (.duration (some a)) (.duration (some a)) = .ok true := by
  rw [durationComparer_some, BitVec.sub_self]
  rfl

theorem durationComparer_symm (a b : Duration) :
    durationComparer (.duration (some a)) (.duration (some b)) =
      durationComparer (.duration (some b)) (.duration (some a)) := by
  have hneg : -(b - a) = a - b := by bv_omega
  rw [durationComparer_some, durationComparer_some, ← absDiff_neg (b - a), hneg]

/-- On non-nil durations `durationComparer` is reflexive and symmetric, for every pair of
64-bit values, wrap-around included. -/
theorem durationComparer_reflexive_symmetric (a b : Duration) :
    durationComparer (.duration (some a)) (.duration (some a)) = .ok true ∧
      durationComparer (.duration (some a)) (.duration (some b)) =
        durationComparer (.duration (some b)) (.duration (some a)) :=
  ⟨durationComparer_refl a, durationComparer_symm a b⟩

/-- 0 s, 1.5 s and 3 s: each is within tolerance of the next, the ends are not. -/
theorem durationComparer_not_transitive :
    durationComparer (.duration (some 0)) (.duration (some 1500000000)) = .ok true ∧
      durationComparer (.duration (some 1500000000)) (.duration (some 3000000000)) = .ok true ∧
      durationComparer (.duration (some 0)) (.duration (some 3000000000)) = .ok false := by
  decide

theorem absDiff_sub_toInt (a b : Duration)
    (h : -2^63 < a.toInt - b.toInt ∧ a.toInt - b.toInt < 2^63) :
    (absDiff (a - b)).toInt = |a.toInt - b.toInt| := by
  rw [absDiff_toInt, toInt_sub_duration a b ⟨h.1.le, h.2⟩, if_neg (by omega), Int.natCast_natAbs]

/-- While `x - y` fits in an `int64` and is not its minimum, the comparer is the exact test
`|x - y| < 2 s`. -/
theorem durationComparer_exact (a b : Duration)
    (h : -2^63 < a.toInt - b.toInt ∧ a.toInt - b.toInt < 2^63) :
    durationComparer (.duration (some a)) (.duration (some b)) =
      .ok (decide (|a.toInt - b.toInt| < acceptableDurationDiff.toInt)) := by
  rw [durationComparer_some, BitVec.slt, absDiff_sub_toInt a b h]

theorem durationComparer_exact_two_one :
    (-2^63 < (3000000000 : Duration).toInt - (1000000000 : Duration).toInt ∧
      (3000000000 : Duration).toInt - (1000000000 : Duration).toInt < 2^63) ∧
    durationComparer (.duration (some 3000000000)) (.duration (some 1000000000)) =
      .ok (decide (|(3000000000 : Duration).toInt - (1000000000 : Duration).toInt| <
        acceptableDurationDiff.toInt)) :=
  ⟨by decide, durationComparer_exact 3000000000 1000000000 (by decide)⟩

/-- On the TTLs backends report, non-negative remaining times, the comparer is the exact test
`|x - y| < 2 s`: their difference always fits in an `int64`. -/
theorem durationComparer_exact_on_ttls (a b : Duration) (ha : 0 ≤ a.toInt) (hb : 0 ≤ b.toInt) :
    durationComparer (.duration (some a)) (.duration (some b)) =
      .ok (decide (|a.toInt - b.toInt| < acceptableDurationDiff.toInt)) := by
  have := (toInt_range a).2
  have := (toInt_range b).2
  rw [durationComparer_some, BitVec.slt, absDiff_sub_toInt a b ⟨by omega, by omega⟩]

theorem durationComparer_exact_on_skewed_ttls :
    (0 ≤ (10000000000 : Duration).toInt ∧ 0 ≤ (8100000000 : Duration).toInt) ∧
    durationComparer (.duration (some 10000000000)) (.duration (some 8100000000)) =
      .ok (decide (|(10000000000 : Duration).toInt - (8100000000 : Duration).toInt| <
        acceptableDurationDiff.toInt)) :=
  ⟨⟨by decide, by decide⟩,
    durationComparer_exact_on_ttls 10000000000 8100000000 (by decide) (by decide)⟩

/-- At `x = math.MinInt64`, `y = 0`, a pair no backend reports as TTLs: `x - y` is the minimum,
`-diff` wraps back to it, and the negative result passes `diff < acceptableDurationDiff`, though
`|x - y| = 2^63 ns`. -/
theorem durationComparer_wraps_at_intMin :
    durationComparer (.duration (some (BitVec.intMin 64))) (.duration (some 0)) = .ok true ∧
      ¬ |(BitVec.intMin 64).toInt - (0 : Duration).toInt| < acceptableDurationDiff.toInt := by
  decide

end KeyValueStore
