import TokenGate.Proofs.Refresh.Cadence

/-! # Idle time between fetches

A loop is idle between the end of a fetch and the tick behind it. A fetch that is still under way
when that tick comes due leaves no idle time: the tick is served late, at the very moment at which
the fetch ends, and the next fetch begins there. Only the tick behind that one is moved. -/

namespace TokenGate.Refresh

section

variable {r : Refresher} {provider : Nat → Course} {n : Nat}

private theorem due_succ (r : Refresher) (provider : Nat → Course) (n : Nat) :
    (tick r provider (n + 1)).due =
      if (tick r provider n).due + grace < beginsAt r provider n then
        beginsAt r provider n + r.interval.toNanos
      else (tick r provider n).due + r.interval.toNanos := rfl

/-- Fetches follow on each other without idle time where a tick is due by the end of the fetch
before it. -/
theorem beginsAt_succ_eq_endsAt_iff :
    beginsAt r provider (n + 1) = endsAt r provider n ↔
      (tick r provider (n + 1)).due ≤ endsAt r provider n := by
  rw [beginsAt_succ, max_eq_right_iff]

/-- A fetch that takes a whole interval leaves no idle time. -/
theorem beginsAt_succ_of_overrun (long : r.interval.toNanos ≤ (provider n).span) :
    beginsAt r provider (n + 1) = endsAt r provider n := by
  rw [beginsAt_succ_eq_endsAt_iff]
  calc (tick r provider (n + 1)).due
      ≤ beginsAt r provider n + r.interval.toNanos := (due_succ_bounds r provider n).2
    _ ≤ endsAt r provider n := Nat.add_le_add_left long _

/-- A fetch that is shorter than an interval by more than the grace leaves idle time. -/
theorem endsAt_lt_beginsAt_succ (short : (provider n).span + grace < r.interval.toNanos) :
    endsAt r provider n < beginsAt r provider (n + 1) := by
  have soonest := (due_succ_bounds r provider n).1
  rw [beginsAt_succ, lt_max_iff, endsAt]
  omega

end

namespace Timeline

/-- There is no idle time behind a fetch just if the tick behind it is due by its end, and ticks are
due an interval behind the one before, counted from when that was due or, if it was served late by
more than the grace, from when it was served. So there is none behind a fetch that takes an interval
or more, and some behind one that is shorter by more than the grace. -/
theorem idle_iff_due_ahead (r : Refresher) (interval : Duration) (provider : Nat → Course)
    (epoch : SystemTime) (cache : KeyCache) :
    let refresher := r.withInterval interval
    let period := max interval.toNanos Refresher.minInterval.toNanos
    let lenience := (Duration.ofMillis 5).toNanos
    let loopAt (moment : Nat) : Loop :=
      ((fresh epoch cache).pass refresher provider (fun _ => true) moment).loop
    ∃ starts ends dues : Nat → Nat,
      (∀ moment n, n < (loopAt moment).calls ↔ starts n ≤ moment) ∧
      (∀ moment n, (loopAt moment).HasEnded n ↔ ends n ≤ moment) ∧
      dues 0 = 0 ∧
      ∀ n, ends n = starts n + (provider n).span ∧
        dues (n + 1) =
          (if dues n + lenience < starts n then starts n + period else dues n + period) ∧
        ends n ≤ starts (n + 1) ∧
        (ends n < starts (n + 1) ↔ ends n < dues (n + 1)) ∧
        (period ≤ (provider n).span → starts (n + 1) = ends n) ∧
        ((provider n).span + lenience < period → ends n < starts (n + 1)) := by
  intro refresher period lenience loopAt
  have kept : refresher.interval.toNanos = period := r.toNanos_withInterval interval
  have spaced : grace < refresher.interval.toNanos :=
    Loop.grace_lt_interval ((le_max_right _ _).trans kept.ge)
  refine ⟨beginsAt refresher provider, endsAt refresher provider,
    fun n => (tick refresher provider n).due, lt_calls_pass_iff spaced epoch cache,
    hasEnded_pass_iff spaced epoch cache, rfl, fun n => ⟨rfl, ?_, ?_, ?_, ?_, ?_⟩⟩
  · rw [← kept]
    exact due_succ refresher provider n
  · exact endsAt_le_beginsAt_succ n
  · rw [beginsAt_succ, lt_max_iff, or_iff_left (lt_irrefl _)]
  · exact fun long => beginsAt_succ_of_overrun (kept.trans_le long)
  · exact fun short => endsAt_lt_beginsAt_succ (short.trans_eq kept.symm)

/-- Where the interval is one second and the first fetch takes three, it ends and the second one
begins at the same nanosecond. -/
theorem back_to_back :
    let r := ({ endpoint := "scripted" } : Refresher).withInterval (.ofSeconds 1)
    let provider (_ : Nat) : Course := ⟨3000000000, (.error .transport, [])⟩
    let loopAt (moment : Nat) : Loop :=
      ((fresh 0 .new).pass r provider (fun _ => true) moment).loop
    (¬ (loopAt 2999999999).HasEnded 0 ∧ (loopAt 2999999999).calls = 1) ∧
      (loopAt 3000000000).HasEnded 0 ∧ (loopAt 3000000000).calls = 2 := by
  unfold Loop.HasEnded
  decide +kernel

end Timeline

end TokenGate.Refresh
