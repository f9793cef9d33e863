import SignalDispatch.Timing
import Mathlib.Algebra.Group.Action.Defs
import Mathlib.Algebra.Order.BigOperators.Group.List
import Mathlib.Algebra.Order.Ring.Nat
import Mathlib.Data.List.Induction
import Mathlib.Order.Bounds.Basic

/-!
# What the recorded figures stand for

Times are recorded one by one and not kept.  The figures still are those of the whole sequence: its
length, its least and greatest entry, and its sum up to the cap.  The mean is the quotient of two of
the figures, so it is below the greatest time at any rate, and above the least one as long as the cap
did not cut the sum.
-/

namespace SignalDispatch.Timing

variable {times : List Nat}

/-- The figures after some times were recorded, the first of the list first. -/
def ofTimes (times : List Nat) : Timing :=
  times.foldl record zero

theorem ofTimes_concat (times : List Nat) (time : Nat) :
    ofTimes (times ++ [time]) = (ofTimes times).record time :=
  List.foldl_append

/-! ## Each figure of a sequence -/

@[simp]
theorem emissions_ofTimes (times : List Nat) : (ofTimes times).emissions = times.length := by
  induction times using List.reverseRecOn with
  | nil => rfl
  | append_singleton times time hypothesis =>
    rw [ofTimes_concat, emissions_record, hypothesis, List.length_append]
    rfl

/-- A total that was cut once stays at the cap, as the exact sum stays above it. -/
theorem total_ofTimes (times : List Nat) :
    (ofTimes times).total = min times.sum Limits.maxCounter := by
  induction times using List.reverseRecOn with
  | nil => rfl
  | append_singleton times time hypothesis =>
    rw [ofTimes_concat]
    show min ((ofTimes times).total + time) Limits.maxCounter = _
    rw [hypothesis, List.sum_append, List.sum_singleton]
    omega

/-- The mean belongs to the other two figures from the start: nothing divided by nothing is zero. -/
theorem mean_ofTimes (times : List Nat) :
    (ofTimes times).mean = (ofTimes times).total / (ofTimes times).emissions := by
  induction times using List.reverseRecOn with
  | nil => rfl
  | append_singleton times time _ =>
    rw [ofTimes_concat]
    rfl

theorem setOf_mem_concat (times : List Nat) (time : Nat) :
    {found | found ∈ times ++ [time]} = insert time {found | found ∈ times} := by
  ext found
  simp [or_comm]

theorem isGreatest_greatest (times : List Nat) (recorded : times ≠ []) :
    IsGreatest {time | time ∈ times} (ofTimes times).greatest := by
  induction times using List.reverseRecOn with
  | nil => exact absurd rfl recorded
  | append_singleton times time hypothesis =>
    rw [ofTimes_concat, setOf_mem_concat]
    show IsGreatest _ (max (ofTimes times).greatest time)
    by_cases first : times = []
    · subst first
      simp [ofTimes, zero]
    · rw [max_comm]
      exact (hypothesis first).insert time

/-- The first time is the least one whatever the figures before it say: they start at zero. -/
theorem least_record_ofTimes (times : List Nat) (time : Nat) :
    ((ofTimes times).record time).least =
      if times = [] then time else min time (ofTimes times).least := by
  show (if (ofTimes times).emissions + 1 = 1 ∨ time < (ofTimes times).least then time
    else (ofTimes times).least) = _
  simp only [emissions_ofTimes, Nat.add_eq_right, List.length_eq_zero_iff]
  split_ifs <;> grind

theorem isLeast_least (times : List Nat) (recorded : times ≠ []) :
    IsLeast {time | time ∈ times} (ofTimes times).least := by
  induction times using List.reverseRecOn with
  | nil => exact absurd rfl recorded
  | append_singleton times time hypothesis =>
    rw [ofTimes_concat, setOf_mem_concat, least_record_ofTimes]
    split_ifs with first
    · subst first
      simp
    · exact (hypothesis first).insert time

/-! ## The mean among the times -/

theorem mean_le_greatest (times : List Nat) : (ofTimes times).mean ≤ (ofTimes times).greatest := by
  rw [mean_ofTimes]
  apply Nat.div_le_of_le_mul
  rcases eq_or_ne times [] with rfl | recorded
  · exact Nat.le_refl 0
  calc
    (ofTimes times).total ≤ times.sum := by
      rw [total_ofTimes]
      exact Nat.min_le_left _ _
    _ ≤ times.length • (ofTimes times).greatest :=
      times.sum_le_card_nsmul _ (isGreatest_greatest times recorded).2
    _ = (ofTimes times).emissions * (ofTimes times).greatest := by
      rw [emissions_ofTimes, smul_eq_mul]

theorem least_le_mean (recorded : times ≠ []) (uncut : times.sum ≤ Limits.maxCounter) :
    (ofTimes times).least ≤ (ofTimes times).mean := by
  rw [mean_ofTimes, emissions_ofTimes, Nat.le_div_iff_mul_le (List.length_pos_iff.mpr recorded)]
  calc
    (ofTimes times).least * times.length = times.length • (ofTimes times).least := by
      rw [smul_eq_mul, Nat.mul_comm]
    _ ≤ times.sum := times.card_nsmul_le_sum _ (isLeast_least times recorded).2
    _ = (ofTimes times).total := by
      rw [total_ofTimes, Nat.min_eq_left uncut]

/-! ## Times of 64 bits -/

/-- The figures after some times of 64 bits were recorded. -/
def figures (times : List UInt64) : Timing :=
  ofTimes (times.map UInt64.toNat)

/-- The figures are those of the whole sequence, and each of them fits a counter of 64 bits. -/
structure Summarized (times : List UInt64) : Prop where
  emissions : (figures times).emissions = times.length
  least : IsLeast {nanos | nanos ∈ times.map UInt64.toNat} (figures times).least
  greatest : IsGreatest {nanos | nanos ∈ times.map UInt64.toNat} (figures times).greatest
  /-- The sum is exact up to the largest value of a counter. -/
  total : (figures times).total = min (times.map UInt64.toNat).sum Limits.maxCounter
  mean : (figures times).mean = (figures times).total / (figures times).emissions
  /-- Whenever a mean was taken, the counter of 64 bits it was divided by was not zero. -/
  divisor :
    ∀ earlier, earlier <+: times → earlier ≠ [] →
      UInt64.ofNat (figures earlier).emissions ≠ 0
  mean_le : (figures times).mean ≤ (figures times).greatest
  /-- The least time is below the mean unless the sum was cut. -/
  le_mean :
    (times.map UInt64.toNat).sum ≤ Limits.maxCounter →
      (figures times).least ≤ (figures times).mean
  bounded :
    ∀ figure ∈
        [(figures times).emissions, (figures times).total, (figures times).mean,
          (figures times).least, (figures times).greatest],
      figure ≤ Limits.maxCounter

theorem le_maxCounter_of_mem
    {times : List UInt64}
    {nanos : Nat}
    (member : nanos ∈ times.map UInt64.toNat) :
    nanos ≤ Limits.maxCounter := by
  rcases List.mem_map.mp member with ⟨word, _, rfl⟩
  exact Nat.le_pred_of_lt word.toNat_lt_size

/-- Fewer times than a counter has values do not bring the counter back to zero. -/
theorem emissionsWord_ne_zero
    {times : List UInt64}
    (recorded : times ≠ [])
    (few : times.length < UInt64.size) :
    UInt64.ofNat (figures times).emissions ≠ 0 := by
  intro wrapped
  apply recorded
  rw [← List.length_eq_zero_iff]
  have word := congrArg UInt64.toNat wrapped
  rwa [figures, emissions_ofTimes, List.length_map, UInt64.toNat_ofNat_of_lt' few] at word

theorem summarized
    (times : List UInt64)
    (recorded : times ≠ [])
    (few : times.length < UInt64.size) :
    Summarized times := by
  have named : times.map UInt64.toNat ≠ [] := mt List.map_eq_nil_iff.mp recorded
  have counted : (figures times).emissions = times.length :=
    (emissions_ofTimes _).trans (List.length_map _)
  have least := isLeast_least _ named
  have greatest := isGreatest_greatest _ named
  have mean := mean_le_greatest (times.map UInt64.toNat)
  have total := total_ofTimes (times.map UInt64.toNat)
  constructor
  case emissions => exact counted
  case least => exact least
  case greatest => exact greatest
  case total => exact total
  case mean => exact mean_ofTimes _
  case divisor =>
    intro earlier start begun
    exact emissionsWord_ne_zero begun (Nat.lt_of_le_of_lt start.length_le few)
  case mean_le => exact mean
  case le_mean => exact least_le_mean named
  case bounded =>
    have highest := le_maxCounter_of_mem greatest.1
    intro figure member
    simp only [List.mem_cons, List.not_mem_nil, or_false] at member
    rcases member with rfl | rfl | rfl | rfl | rfl
    · rw [counted]
      exact Nat.le_pred_of_lt few
    · exact total.trans_le (Nat.min_le_right _ _)
    · exact mean.trans highest
    · exact le_maxCounter_of_mem least.1
    · exact highest

/-- Two times that together exceed a counter: the sum is cut, and the mean is half the cap. -/
theorem summarized_cut :
    [UInt64.ofNat Limits.maxCounter, UInt64.ofNat Limits.maxCounter] ≠ [] ∧
      Summarized [UInt64.ofNat Limits.maxCounter, UInt64.ofNat Limits.maxCounter] ∧
      (figures [UInt64.ofNat Limits.maxCounter, UInt64.ofNat Limits.maxCounter]).mean <
        (figures [UInt64.ofNat Limits.maxCounter, UInt64.ofNat Limits.maxCounter]).least :=
  ⟨by decide, summarized _ (by decide) (by decide), by decide⟩

end SignalDispatch.Timing
