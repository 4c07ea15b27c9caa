import TokenGate.Proofs.Refresh.Cadence

/-! # The first install

A cache that nothing was installed in takes the first document that comes, with keys or without.
Whoever waits for the first install waits until the fetch that brings this document has ended, from
whichever cycle it comes, and no longer than allowed. -/

namespace TokenGate

namespace RefreshState

/-- What the cache of a new loop has after some cycles. -/
theorem isInitialized_refreshAll (r : Refresher) (fetches : List (FetchResult × SystemTime)) :
    let s := refreshAll r {} fetches
    (s.cache.current.keys ≠ [] → s.cache.isInitialized = true) ∧
      (s.cache.isInitialized = true ↔ ∃ fetch ∈ fetches, BringsDocument fetch.1) := by
  induction fetches using List.reverseRecOn with
  | nil => simp [refreshAll, KeyCache.new, KeySet.uninitialized, KeyCache.isInitialized]
  | append_singleton fetches fetch ih =>
    obtain ⟨shown, filled⟩ := ih
    have begun : (refreshAll r {} fetches).cache = (refreshAll r {} fetches).attempt.cache := rfl
    rw [begun] at shown filled
    have ended := complete_end r (refreshAll r {} fetches).attempt fetch.1 fetch.2
    have last : BringsDocument fetch.1 ↔ ∃ f ∈ [fetch], BringsDocument f.1 := by simp
    rw [refreshAll_concat, refreshOnce]
    refine ⟨ended.isInitialized_of_keys shown, (ended.isInitialized_iff shown).trans ?_⟩
    simp only [List.mem_append, or_and_right, exists_or, ← last]
    exact or_congr filled Iff.rfl

end RefreshState

namespace Refresh

section

variable {r : Refresher} {provider : Nat → Course} {epoch : SystemTime}

private theorem isInitialized_cacheBehind_iff (count : Nat) :
    (cacheBehind r provider epoch .new count).isInitialized = true ↔
      ∃ n < count, BringsDocument (provider n).result := by
  refine (RefreshState.isInitialized_refreshAll r _).2.trans ?_
  simp

private theorem cacheBehind_of_not_brings {count : Nat}
    (without : ∀ n < count, ¬ BringsDocument (provider n).result) :
    cacheBehind r provider epoch .new count = .new := by
  induction count with
  | zero => rfl
  | succ count ih =>
    have before := ih fun n earlier => without n (Nat.lt_succ_of_lt earlier)
    rw [cacheBehind_succ (s := { cache := .new }) epoch .new count before.symm]
    exact (RefreshState.complete_end r _ _ _).cache_eq (without count (Nat.lt_succ_self count))

/-- A loop on schedule has filled its cache just if a fetch that has ended brought a document. -/
theorem Loop.OnSchedule.isInitialized_iff {now : Nat} {l : Loop}
    (on : l.OnSchedule r provider epoch .new now) :
    l.refresh.cache.isInitialized = true ↔
      ∃ n, l.HasEnded n ∧ BringsDocument (provider n).result := by
  have ended (n : Nat) : l.HasEnded n ↔ n < l.calls - l.inFlight := Nat.lt_sub_iff_add_lt.symm
  rw [on.installed, isInitialized_cacheBehind_iff]
  simp only [ended]

/-- Before the first document has come, the cache is as it was. -/
theorem Loop.OnSchedule.cache_eq_new {now : Nat} {l : Loop}
    (on : l.OnSchedule r provider epoch .new now)
    (late : ∀ n, BringsDocument (provider n).result → now < endsAt r provider n) :
    l.refresh.cache = .new := by
  rw [on.installed]
  refine cacheBehind_of_not_brings fun n ended brings => ?_
  have behind := on.place.endsAt_le (Nat.lt_sub_iff_add_lt.1 ended)
  exact absurd behind (Nat.not_le.2 (late n brings))

/-- A fetch is the first that brings a document. -/
structure IsFirst (provider : Nat → Course) (n : Nat) : Prop where
  brings : BringsDocument (provider n).result
  first : ∀ m, BringsDocument (provider m).result → n ≤ m

private theorem exists_isFirst {n : Nat} (brings : BringsDocument (provider n).result) :
    ∃ m ≤ n, IsFirst provider m := by
  classical
  have found : ∃ n, BringsDocument (provider n).result := ⟨n, brings⟩
  exact ⟨Nat.find found, Nat.find_min' found brings, Nat.find_spec found,
    fun m brings => Nat.find_min' found brings⟩

/-- A loop whose cache has been filled in a poll is where the first document came. -/
theorem Loop.OnSchedule.eq_endsAt {now : Nat} {before l : Loop}
    (entered : before.OnSchedule r provider epoch .new now)
    (empty : before.refresh.cache.isInitialized = false)
    (on : l.OnSchedule r provider epoch .new now) (filled : l.refresh.cache.isInitialized = true) :
    ∃ n, IsFirst provider n ∧ now = endsAt r provider n := by
  obtain ⟨n, ended, brings⟩ := on.isInitialized_iff.1 filled
  obtain ⟨m, within, isFirst⟩ := exists_isFirst brings
  have unended : ¬ before.HasEnded m := by
    intro ended
    rw [entered.isInitialized_iff.2 ⟨m, ended, isFirst.brings⟩] at empty
    cases empty
  refine ⟨m, isFirst, le_antisymm (entered.place.le_endsAt unended) ?_⟩
  exact (endsAt_mono within).trans (on.place.endsAt_le ended)

namespace Timeline

/-- How the wait for the first install ends: behind the first fetch that brings a document, or
without an install when the span is over. -/
inductive Waited (r : Refresher) (provider : Nat → Course) (limit : Nat) (t : Timeline) : Prop
  | filled {n : Nat} (first : IsFirst provider n) (moment : t.now = endsAt r provider n)
      (within : t.now ≤ limit) (filled : t.isInitialized = true) : Waited r provider limit t
  | expired (moment : t.now = limit) (empty : t.isInitialized = false) : Waited r provider limit t

private theorem Undisturbed.waitInstalled_eq {t : Timeline} {cache : KeyCache}
    (left : t.Undisturbed r provider epoch cache) (empty : t.isInitialized = false) {span : Nat}
    (patient : span ≠ 0) : t.waitInstalled r provider span =
      let l := t.loop.runWhile r provider false (fun l => !l.refresh.cache.isInitialized)
        (t.now + span)
      { t with
        loop := l
        now := if l.refresh.cache.isInitialized then max t.now l.polled else t.now + span } := by
  have waits : ¬ (t.isInitialized || span == 0) = true := by simp [empty, patient]
  rw [Timeline.waitInstalled, if_neg waits, left.pass_eq]
  rfl

/-- A loop that is left alone meanwhile. An empty span is over before the loop is polled, and in any
other the first fetch to fill the cache had not ended before. -/
theorem Undisturbed.waitInstalled {t : Timeline} (spaced : grace < r.interval.toNanos)
    (left : t.Undisturbed r provider epoch .new) (empty : t.isInitialized = false) (span : Nat) :
    (t.waitInstalled r provider span).Undisturbed r provider epoch .new ∧
      (t.waitInstalled r provider span).Waited r provider (t.now + span) := by
  by_cases patient : span = 0
  · have same : t.waitInstalled r provider span = t := by
      simp [Timeline.waitInstalled, patient]
    rw [same, patient]
    exact ⟨left, .expired rfl empty⟩
  have ran : t.loop.RanTo r provider epoch .new (fun l => !l.refresh.cache.isInitialized)
      (t.now + span) _ :=
    Loop.ranTo_runWhile spaced ⟨t.now, Nat.le_add_right _ _, left.on, left.punctual⟩
  rw [left.waitInstalled_eq empty patient]
  generalize t.loop.runWhile r provider false _ (t.now + span) = l at ran ⊢
  cases ran with
  | idle halted =>
    have filled : t.isInitialized = true := by simpa [isInitialized] using halted
    rw [empty] at filled
    cases filled
  | @halted before _ entered going on rested within halted =>
    have filled : l.refresh.cache.isInitialized = true := by simpa using halted
    obtain ⟨n, first, moment⟩ := entered.eq_endsAt (by simpa using going) on filled
    have unended : ¬ t.loop.HasEnded n := by
      intro ended
      have early := left.on.isInitialized_iff.2 ⟨n, ended, first.brings⟩
      rw [isInitialized, early] at empty
      cases empty
    have behind : t.now ≤ l.polled := moment ▸ left.on.place.le_endsAt unended
    simp only [filled, if_true, max_eq_right behind]
    exact ⟨⟨left.live, on, rested.punctual⟩, .filled first moment within filled⟩
  | reached going on rested =>
    have unfilled : l.refresh.cache.isInitialized = false := by simpa using going
    simp only [unfilled, Bool.false_eq_true, if_false]
    exact ⟨⟨left.live, on, rested.punctual⟩, .expired rfl unfilled⟩

/-- The wait ends with the first document if that comes in time. -/
theorem Undisturbed.filled_of_isFirst {t : Timeline} {limit n : Nat}
    (left : t.Undisturbed r provider epoch .new) (waited : t.Waited r provider limit)
    (isFirst : IsFirst provider n) (soon : endsAt r provider n < limit) :
    t.now = endsAt r provider n ∧ t.isInitialized = true := by
  cases waited with
  | @filled m first moment _ filled =>
    obtain rfl : m = n := le_antisymm (first.first n isFirst.brings) (isFirst.first m first.brings)
    exact ⟨moment, filled⟩
  | expired moment empty =>
    have ended : t.loop.HasEnded n := by
      by_contra unended
      have ahead := left.on.place.le_endsAt unended
      omega
    rw [isInitialized, left.on.isInitialized_iff.2 ⟨n, ended, isFirst.brings⟩] at empty
    cases empty

/-- The wait is in vain if no document comes up to its end. -/
theorem Waited.empty_of_late {t : Timeline} {limit : Nat} (waited : t.Waited r provider limit)
    (late : ∀ n, BringsDocument (provider n).result → limit < endsAt r provider n) :
    t.now = limit ∧ t.isInitialized = false := by
  cases waited with
  | @filled n first moment within =>
    have behind := late n first.brings
    omega
  | expired moment empty => exact ⟨moment, empty⟩

end Timeline

end

end Refresh

end TokenGate
