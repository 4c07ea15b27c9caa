import TokenGate.Proofs.Refresh.Cancellation

/-! # The cadence of the loop

On a clock that jumps from one moment at which something is due to the next, the interval and the
spans of the fetches decide when every fetch begins and ends. A loop that is run up to a moment has
begun and ended just the fetches that begin and end by then, and its cache is that of the cycles
which have ended, one behind the other. -/

namespace TokenGate

/-- An interval that is too short is raised to the shortest one. -/
theorem Refresher.toNanos_withInterval (r : Refresher) (interval : Duration) :
    (r.withInterval interval).interval.toNanos = max interval.toNanos minInterval.toNanos := by
  unfold withInterval
  split
  · next short => exact (max_eq_right short.le).symm
  · next long => exact (max_eq_left (Nat.not_lt.1 long)).symm

namespace RefreshState

private theorem cache_emptied (r : Refresher) (s : RefreshState) (candidates : UInt64)
    (time : SystemTime) : (emptied r s candidates time).1.cache =
      if r.emptyPolicy == .preserveExisting && !s.cache.current.isEmpty then s.cache
      else s.cache.install (.empty time) := by
  unfold emptied
  dsimp only
  split_ifs <;> rfl

/-- Of a state only the cache matters to what the end of a fetch makes of the cache. -/
theorem cache_complete_congr (r : Refresher) {s s' : RefreshState} (same : s.cache = s'.cache)
    (fetch : FetchResult) (time : SystemTime) :
    (complete r s fetch time).1.cache = (complete r s' fetch time).1.cache := by
  unfold complete
  split
  · simp only [installed, logged, same]
  · simp only [cache_emptied, logged, same]
  · exact same

end RefreshState

namespace Refresh

/-- The tick behind which a fetch begins: when it is due, and when it is served. -/
structure Tick where
  due : Nat
  served : Nat

section

variable (r : Refresher) (provider : Nat → Course)

/-- The ticks of a loop that is left alone. A tick is served once it is due and the fetch before it
has ended. -/
def tick : Nat → Tick
  | 0 => ⟨0, 0⟩
  | n + 1 =>
    let due := nextTick r.interval.toNanos (tick n).due (tick n).served
    ⟨due, max due ((tick n).served + (provider n).span)⟩

def beginsAt (n : Nat) : Nat := (tick r provider n).served

def endsAt (n : Nat) : Nat := beginsAt r provider n + (provider n).span

/-- A cache behind the first fetches, each applied when it ends. -/
def cacheBehind (epoch : SystemTime) (cache : KeyCache) (count : Nat) : KeyCache :=
  (RefreshState.refreshAll r { cache := cache } <| (List.range count).map fun n =>
    ((provider n).result, epoch + endsAt r provider n)).cache

end

section Ticks

variable {r : Refresher} {provider : Nat → Course}

/-- No fetch begins before its tick is due. -/
theorem due_le_beginsAt (n : Nat) : (tick r provider n).due ≤ beginsAt r provider n := by
  cases n with
  | zero => exact le_rfl
  | succ n => exact le_max_left _ _

theorem beginsAt_succ (n : Nat) : beginsAt r provider (n + 1) =
    max (tick r provider (n + 1)).due (endsAt r provider n) := rfl

theorem beginsAt_le_endsAt (n : Nat) : beginsAt r provider n ≤ endsAt r provider n :=
  Nat.le_add_right _ _

/-- A fetch begins when the one before it has ended. -/
theorem endsAt_le_beginsAt_succ (n : Nat) : endsAt r provider n ≤ beginsAt r provider (n + 1) :=
  le_max_right _ _

/-- A tick is due an interval behind the one before, which was served at most the grace late, or
else counts from there. -/
theorem due_succ_bounds (r : Refresher) (provider : Nat → Course) (n : Nat) :
    beginsAt r provider n + r.interval.toNanos ≤ (tick r provider (n + 1)).due + grace ∧
      (tick r provider (n + 1)).due ≤ beginsAt r provider n + r.interval.toNanos := by
  have served : (tick r provider n).due ≤ beginsAt r provider n := due_le_beginsAt n
  have due : (tick r provider (n + 1)).due =
    nextTick r.interval.toNanos (tick r provider n).due (beginsAt r provider n) := rfl
  rw [due, nextTick]
  split <;> omega

theorem beginsAt_mono : Monotone (beginsAt r provider) :=
  monotone_nat_of_le_succ fun n => (beginsAt_le_endsAt n).trans (endsAt_le_beginsAt_succ n)

theorem endsAt_mono : Monotone (endsAt r provider) :=
  monotone_nat_of_le_succ fun n => (endsAt_le_beginsAt_succ n).trans (beginsAt_le_endsAt (n + 1))

private theorem endsAt_le_beginsAt {m n : Nat} (before : m < n) :
    endsAt r provider m ≤ beginsAt r provider n :=
  (endsAt_le_beginsAt_succ m).trans (beginsAt_mono before)

/-- A fetch begins as soon as its tick is due and all fetches before it have ended. -/
theorem beginsAt_le {n now : Nat} (ripe : (tick r provider n).due ≤ now)
    (behind : ∀ m < n, endsAt r provider m ≤ now) : beginsAt r provider n ≤ now := by
  cases n with
  | zero => exact ripe
  | succ n => exact max_le ripe (behind n (Nat.lt_succ_self n))

/-- A cycle more is applied to the cache behind those before it, when its fetch ends. -/
theorem cacheBehind_succ (epoch : SystemTime) (cache : KeyCache) (count : Nat) {s : RefreshState}
    (before : s.cache = cacheBehind r provider epoch cache count) :
    cacheBehind r provider epoch cache (count + 1) =
      (s.complete r (provider count).result (epoch + endsAt r provider count)).1.cache := by
  rw [cacheBehind, List.range_succ, List.map_append, List.map_singleton,
    RefreshState.refreshAll_concat, RefreshState.refreshOnce]
  refine RefreshState.cache_complete_congr r ?_ _ _
  exact before.symm

/-- A set that a fetch brings is installed when the fetch ends. -/
theorem cacheBehind_of_ok (epoch : SystemTime) (cache : KeyCache) {n : Nat} {set : KeySet}
    (fetched : (provider n).result.1 = .ok set) :
    cacheBehind r provider epoch cache (n + 1) =
      (cacheBehind r provider epoch cache n).install set := by
  rw [cacheBehind_succ (s := { cache := cacheBehind r provider epoch cache n }) epoch cache n rfl]
  simp only [RefreshState.complete, fetched]
  rfl

end Ticks

namespace Loop

section

variable (r : Refresher) (provider : Nat → Course)

/-- Where a loop that is left alone is at a moment: between the last thing that it did and the next
thing that it will do. -/
inductive InPlace (now : Nat) (l : Loop) : Prop
  | created (phase : l.phase = .created) (calls : l.calls = 0) (first : now = 0) : InPlace now l
  | waiting (phase : l.phase = .waiting (tick r provider l.calls).due)
      (behind : ∀ n < l.calls, endsAt r provider n ≤ now)
      (ahead : now ≤ beginsAt r provider l.calls) : InPlace now l
  | fetching {n : Nat}
      (phase : l.phase = .fetching (endsAt r provider n) (provider n) (tick r provider (n + 1)).due)
      (calls : l.calls = n + 1) (behind : beginsAt r provider n ≤ now)
      (ahead : now ≤ endsAt r provider n) : InPlace now l

/-- A loop that is left alone, over a cache, at a moment. -/
structure OnSchedule (epoch : SystemTime) (cache : KeyCache) (now : Nat) (l : Loop) : Prop where
  place : l.InPlace r provider now
  started : l.epoch = epoch
  installed : l.refresh.cache = cacheBehind r provider epoch cache (l.calls - l.inFlight)

/-- Nothing was left to do before a moment. -/
def Punctual (now : Nat) (l : Loop) : Prop := ∀ next, l.wake? = some next → now ≤ next

/-- Nothing is left to do at a moment. -/
def Rested (now : Nat) (l : Loop) : Prop := ∀ next, l.wake? = some next → now < next

end

section Step

variable {r : Refresher} {provider : Nat → Course} {epoch : SystemTime} {cache : KeyCache}
variable {now : Nat} {l l' : Loop}

private theorem InPlace.exists_wake? (place : l.InPlace r provider now) :
    ∃ next, l.wake? = some next := by
  cases place with
  | created phase => exact ⟨_, by rw [wake?, phase]⟩
  | waiting phase => exact ⟨_, by rw [wake?, phase]⟩
  | fetching phase => exact ⟨_, by rw [wake?, phase]⟩

theorem InPlace.isRunning (place : l.InPlace r provider now) : l.isRunning = true := by
  cases place with
  | created phase => rw [Loop.isRunning, phase]
  | waiting phase => rw [Loop.isRunning, phase]
  | fetching phase => rw [Loop.isRunning, phase]

/-- The loop does everything just when it is due. -/
theorem OnSchedule.next {deed : Deed} (on : l.OnSchedule r provider epoch cache now)
    (does : l.Does r provider now false deed l') : l'.OnSchedule r provider epoch cache now := by
  obtain ⟨place, started, installed⟩ := on
  cases does with
  | start created =>
    cases place with
    | created _ calls first =>
      refine ⟨.waiting ?_ (fun n before => ?_) ?_, started, ?_⟩
      · rw [Loop.start, calls, first]
        rfl
      · rw [Loop.start, calls] at before
        omega
      · rw [first]
        exact Nat.zero_le _
      · rw [inFlight, created] at installed
        exact installed
    | waiting phase => cases phase.symm.trans created
    | fetching phase => cases phase.symm.trans created
  | stop _ fired => cases fired
  | @beginFetch due waiting _ ripe =>
    cases place with
    | created phase => cases phase.symm.trans waiting
    | waiting phase behind ahead =>
      obtain rfl := Phase.waiting.inj (phase.symm.trans waiting)
      have onTime : now = beginsAt r provider l.calls := le_antisymm ahead (beginsAt_le ripe behind)
      refine ⟨.fetching (n := l.calls) ?_ rfl onTime.ge ?_, started, ?_⟩
      · rw [Loop.beginFetch, onTime]
        rfl
      · exact onTime.le.trans (beginsAt_le_endsAt _)
      · rw [inFlight, waiting] at installed
        exact installed
    | fetching phase => cases phase.symm.trans waiting
  | abandonFetch _ fired => cases fired
  | @endFetch finish due course fetching _ ripe =>
    cases place with
    | created phase => cases phase.symm.trans fetching
    | waiting phase => cases phase.symm.trans fetching
    | @fetching n phase calls behind ahead =>
      obtain ⟨rfl, rfl, rfl⟩ := Phase.fetching.inj (phase.symm.trans fetching)
      have onTime : now = endsAt r provider n := le_antisymm ahead ripe
      refine ⟨.waiting ?_ (fun m before => ?_) ?_, started, ?_⟩
      · rw [Loop.endFetch, calls]
      · rw [Loop.endFetch, calls, Nat.lt_succ_iff] at before
        exact onTime ▸ endsAt_mono before
      · rw [Loop.endFetch, calls, onTime]
        exact endsAt_le_beginsAt_succ n
      · rw [inFlight, fetching, calls] at installed
        rw [inFlight_endFetch, Loop.endFetch, calls, started, onTime]
        exact (cacheBehind_succ epoch cache n installed).symm

private theorem OnSchedule.at_poll (on : l.OnSchedule r provider epoch cache now) (moment : Nat) :
    { l with polled := moment }.OnSchedule r provider epoch cache now where
  place := by
    cases on.place with
    | created phase calls first => exact .created phase calls first
    | waiting phase behind ahead => exact .waiting phase behind ahead
    | fetching phase calls behind ahead => exact .fetching phase calls behind ahead
  started := on.started
  installed := on.installed

/-- A poll keeps a loop on schedule. -/
theorem OnSchedule.poll (on : l.OnSchedule r provider epoch cache now) :
    (l.poll r provider now false).OnSchedule r provider epoch cache now :=
  poll_preserves (fun _ _ _ on does => on.next does) (fun _ moment on => on.at_poll moment) on

theorem Rested.punctual (rested : l.Rested now) : l.Punctual now :=
  fun next woken => (rested next woken).le

/-- A loop stays where it is until something is due. -/
theorem OnSchedule.later {moment : Nat} (on : l.OnSchedule r provider epoch cache now)
    (passed : now ≤ moment) (quiet : l.Punctual moment) :
    l.OnSchedule r provider epoch cache moment where
  place := by
    cases on.place with
    | created phase calls =>
      exact .created phase calls (Nat.le_zero.1 (quiet 0 (by rw [wake?, phase])))
    | waiting phase behind =>
      refine .waiting phase (fun n before => (behind n before).trans passed) ?_
      exact (quiet _ (by rw [wake?, phase])).trans (due_le_beginsAt _)
    | fetching phase calls behind =>
      exact .fetching phase calls (behind.trans passed) (quiet _ (by rw [wake?, phase]))
  started := on.started
  installed := on.installed

private theorem rested_of_advance? (settled : l.advance? r provider now false = none) :
    l.Rested now := by
  intro next woken
  unfold advance? at settled
  unfold wake? at woken
  cases phase : l.phase with
  | created => simp [phase] at settled
  | waiting due =>
    obtain rfl : due = next := by simpa [phase] using woken
    simpa [phase] using settled
  | fetching finish course due =>
    obtain rfl : finish = next := by simpa [phase] using woken
    simpa [phase] using settled
  | stopped moment => simp [phase] at woken

private theorem rested_poll (spaced : grace < r.interval.toNanos) (l : Loop) :
    (l.poll r provider now false).Rested now :=
  rested_of_advance? (advance?_poll (fun _ => spaced) l)

@[simp] theorem polled_poll (r : Refresher) (provider : Nat → Course) (now : Nat)
    (cancelled : Bool) (l : Loop) : (l.poll r provider now cancelled).polled = now := by
  refine @advanceUpTo_induction r provider now cancelled (fun l _ => l.polled = now) ?_ 4 _ [] rfl
  intro l done deed l' same does
  cases does <;> exact same

end Step

/-! ## What has begun and ended -/

section Reached

variable {r : Refresher} {provider : Nat → Course} {now n : Nat} {l : Loop}

/-- A fetch that has ended has done so by now. -/
theorem InPlace.endsAt_le (place : l.InPlace r provider now) (ended : l.HasEnded n) :
    endsAt r provider n ≤ now := by
  unfold HasEnded inFlight at ended
  cases place with
  | created phase calls => simp [calls] at ended
  | waiting phase behind =>
    rw [phase] at ended
    exact behind n ended
  | fetching phase calls behind =>
    rw [phase, calls] at ended
    exact (endsAt_le_beginsAt (Nat.lt_of_succ_lt_succ ended)).trans behind

/-- A fetch that has not ended ends no earlier than now. -/
theorem InPlace.le_endsAt (place : l.InPlace r provider now) (unended : ¬ l.HasEnded n) :
    now ≤ endsAt r provider n := by
  unfold HasEnded inFlight at unended
  cases place with
  | created phase calls first => omega
  | waiting phase behind ahead =>
    rw [phase] at unended
    exact ahead.trans ((beginsAt_mono (Nat.not_lt.1 unended)).trans (beginsAt_le_endsAt n))
  | fetching phase calls behind ahead =>
    rw [phase, calls] at unended
    have behindLast := Nat.le_of_not_lt fun before => unended (Nat.succ_lt_succ before)
    exact ahead.trans (endsAt_mono behindLast)

/-- Where nothing is left to do, the fetches that have begun are those that begin by then. -/
theorem InPlace.lt_calls_iff (place : l.InPlace r provider now) (rested : l.Rested now) :
    n < l.calls ↔ beginsAt r provider n ≤ now := by
  cases place with
  | created phase => exact absurd (rested 0 (by rw [wake?, phase])) (Nat.not_lt_zero now)
  | waiting phase behind =>
    have ahead := (rested _ (by rw [wake?, phase])).trans_le (due_le_beginsAt l.calls)
    refine ⟨fun begun => (beginsAt_le_endsAt n).trans (behind n begun), fun begun => ?_⟩
    exact beginsAt_mono.reflect_lt (begun.trans_lt ahead)
  | @fetching last phase calls behind =>
    have ahead := rested _ (by rw [wake?, phase])
    rw [calls, Nat.lt_succ_iff]
    refine ⟨fun begun => (beginsAt_mono begun).trans behind, fun begun => ?_⟩
    exact Nat.lt_succ_iff.1 (beginsAt_mono.reflect_lt
      (begun.trans_lt (ahead.trans_le (endsAt_le_beginsAt_succ last))))

/-- Where nothing is left to do, the fetches that have ended are those that end by then. -/
theorem InPlace.hasEnded_iff (place : l.InPlace r provider now) (rested : l.Rested now) :
    l.HasEnded n ↔ endsAt r provider n ≤ now := by
  refine ⟨place.endsAt_le, fun ended => ?_⟩
  unfold HasEnded inFlight
  cases place with
  | created phase => exact absurd (rested 0 (by rw [wake?, phase])) (Nat.not_lt_zero now)
  | waiting phase behind =>
    have ahead := (rested _ (by rw [wake?, phase])).trans_le (due_le_beginsAt l.calls)
    rw [phase]
    exact beginsAt_mono.reflect_lt (((beginsAt_le_endsAt n).trans ended).trans_lt ahead)
  | fetching phase calls behind =>
    rw [phase, calls]
    exact Nat.succ_lt_succ (endsAt_mono.reflect_lt
      (ended.trans_lt (rested _ (by rw [wake?, phase]))))

/-- Where nothing is left to do, the cache is the one behind the fetches that end by then. -/
theorem OnSchedule.exists_count {epoch : SystemTime} {cache : KeyCache}
    (on : l.OnSchedule r provider epoch cache now) (rested : l.Rested now) :
    ∃ count, (∀ n, n < count ↔ endsAt r provider n ≤ now) ∧
      l.refresh.cache = cacheBehind r provider epoch cache count :=
  ⟨_, fun _ => Nat.lt_sub_iff_add_lt.trans (on.place.hasEnded_iff rested), on.installed⟩

end Reached

/-! ## Runs -/

section Run

variable (r : Refresher) (provider : Nat → Course) (epoch : SystemTime) (cache : KeyCache)
variable (goOn : Loop → Bool) (limit : Nat)

/-- Where a run leaves a loop: where it was, at the moment at which the condition fails, or at the
limit. -/
inductive RanTo (l : Loop) : Loop → Prop
  | idle (halted : goOn l = false) : RanTo l l
  | halted {before l' : Loop} (entered : before.OnSchedule r provider epoch cache l'.polled)
      (going : goOn before = true) (on : l'.OnSchedule r provider epoch cache l'.polled)
      (rested : l'.Rested l'.polled) (within : l'.polled ≤ limit) (halted : goOn l' = false) :
      RanTo l l'
  | reached {l' : Loop} (going : goOn l' = true) (on : l'.OnSchedule r provider epoch cache limit)
      (rested : l'.Rested limit) : RanTo l l'

variable {r provider epoch cache goOn limit} {l : Loop}

/-- A loop that is not late is run on schedule. -/
theorem ranTo_runWhile (spaced : grace < r.interval.toNanos)
    (punctual : ∃ now ≤ limit, l.OnSchedule r provider epoch cache now ∧ l.Punctual now) :
    l.RanTo r provider epoch cache goOn limit (l.runWhile r provider false goOn limit) := by
  fun_induction Loop.runWhile r provider false goOn limit l with
  | case1 l asleep =>
    obtain ⟨now, -, on, -⟩ := punctual
    obtain ⟨next, woken⟩ := on.place.exists_wake?
    rw [asleep] at woken
    cases woken
  | case2 l moment woken going l' asleep =>
    obtain ⟨now, -, on, punctual⟩ := punctual
    have due := on.later (punctual moment woken) (by simp [Punctual, woken])
    obtain ⟨next, awake⟩ := due.poll.place.exists_wake?
    rw [asleep] at awake
    cases awake
  | case3 l moment woken going l' next ahead before ih =>
    obtain ⟨now, -, on, punctual⟩ := punctual
    have due := on.later (punctual moment woken) (by simp [Punctual, woken])
    have rested : l'.Rested moment := rested_poll spaced l
    have polled : l'.polled = moment := polled_poll ..
    have ran := ih ⟨moment, going.2, due.poll, rested.punctual⟩
    generalize l'.runWhile r provider false goOn limit = final at ran ⊢
    cases ran with
    | idle halted =>
      exact .halted (polled.symm ▸ due) going.1 (polled.symm ▸ due.poll) (polled.symm ▸ rested)
        (polled.symm ▸ going.2) halted
    | halted entered going on rested within halted =>
      exact .halted entered going on rested within halted
    | reached going on rested => exact .reached going on rested
  | case4 l moment woken going l' next ahead behind =>
    have rested : l'.Rested moment := rested_poll spaced l
    exact absurd (rested next ahead) behind
  | case5 l moment woken ceased =>
    obtain ⟨now, within, on, punctual⟩ := punctual
    cases halted : goOn l with
    | false => exact .idle halted
    | true =>
      have beyond : limit < moment := Nat.lt_of_not_le fun soon => ceased ⟨halted, soon⟩
      refine .reached halted (on.later within ?_) ?_
      · simp [Punctual, woken, beyond.le]
      · simp [Rested, woken, beyond]

private theorem onSchedule_runWhile (spaced : grace < r.interval.toNanos)
    (punctual : ∃ now ≤ limit, l.OnSchedule r provider epoch cache now ∧ l.Punctual now) :
    (l.runWhile r provider false (fun _ => true) limit).OnSchedule r provider epoch cache limit ∧
      (l.runWhile r provider false (fun _ => true) limit).Rested limit := by
  have ran : l.RanTo r provider epoch cache (fun _ => true) limit _ :=
    ranTo_runWhile spaced punctual
  generalize l.runWhile r provider false (fun _ => true) limit = final at ran ⊢
  cases ran with
  | idle halted => cases halted
  | halted _ _ _ _ _ halted => cases halted
  | reached _ on rested => exact ⟨on, rested⟩

end Run

end Loop

namespace Timeline

section

variable (r : Refresher) (provider : Nat → Course) (epoch : SystemTime) (cache : KeyCache)

/-- A loop that is left alone, with its clock. -/
structure Undisturbed (t : Timeline) : Prop where
  live : t.cancelled = false
  on : t.loop.OnSchedule r provider epoch cache t.now
  punctual : t.loop.Punctual t.now

/-- A new loop has not been disturbed. -/
theorem undisturbed_fresh : (fresh epoch cache).Undisturbed r provider epoch cache where
  live := rfl
  on := ⟨.created rfl rfl rfl, rfl, rfl⟩
  punctual _ _ := Nat.zero_le _

variable {r provider epoch cache} {t : Timeline}

theorem Undisturbed.pass_eq (left : t.Undisturbed r provider epoch cache) (goOn : Loop → Bool)
    (limit : Nat) : t.pass r provider goOn limit =
      { t with loop := t.loop.runWhile r provider false goOn limit } := by
  simp [pass, react, left.live]

/-- A loop that time passes for is on schedule, with nothing left to do. -/
theorem Undisturbed.pass (spaced : grace < r.interval.toNanos)
    (left : t.Undisturbed r provider epoch cache) {limit : Nat} (within : t.now ≤ limit) :
    (t.pass r provider (fun _ => true) limit).loop.OnSchedule r provider epoch cache limit ∧
      (t.pass r provider (fun _ => true) limit).loop.Rested limit := by
  rw [left.pass_eq]
  exact Loop.onSchedule_runWhile spaced ⟨t.now, within, left.on, left.punctual⟩

/-- Time that passes disturbs no loop, and leaves it nothing to do. -/
theorem Undisturbed.advanceTo (spaced : grace < r.interval.toNanos)
    (left : t.Undisturbed r provider epoch cache) {moment : Nat} (ahead : t.now ≤ moment) :
    (t.advanceTo r provider moment).Undisturbed r provider epoch cache ∧
      (t.advanceTo r provider moment).now = moment ∧
      (t.now < moment → (t.advanceTo r provider moment).loop.Rested moment) := by
  rw [Timeline.advanceTo]
  split
  · next later =>
    obtain ⟨on, rested⟩ := left.pass spaced later.le
    refine ⟨⟨?_, on, rested.punctual⟩, rfl, fun _ => rested⟩
    rw [left.pass_eq]
    exact left.live
  · next same => exact ⟨left, le_antisymm ahead (Nat.not_lt.1 same), fun later => absurd later same⟩

/-- A new loop, run up to a moment, has begun the fetches that begin by then. -/
theorem lt_calls_pass_iff (spaced : grace < r.interval.toNanos) (epoch : SystemTime)
    (cache : KeyCache) (moment n : Nat) :
    n < ((fresh epoch cache).pass r provider (fun _ => true) moment).loop.calls ↔
      beginsAt r provider n ≤ moment := by
  obtain ⟨on, rested⟩ := (undisturbed_fresh r provider epoch cache).pass spaced
    (Nat.zero_le moment)
  exact on.place.lt_calls_iff rested

/-- A new loop, run up to a moment, has ended the fetches that end by then. -/
theorem hasEnded_pass_iff (spaced : grace < r.interval.toNanos) (epoch : SystemTime)
    (cache : KeyCache) (moment n : Nat) :
    ((fresh epoch cache).pass r provider (fun _ => true) moment).loop.HasEnded n ↔
      endsAt r provider n ≤ moment := by
  obtain ⟨on, rested⟩ := (undisturbed_fresh r provider epoch cache).pass spaced
    (Nat.zero_le moment)
  exact on.place.hasEnded_iff rested

end

/-- The loop keeps its interval, however long its fetches take. The first fetch begins at once. Each
other one begins behind the end of the fetch before it, and an interval behind the beginning, less
the grace at most, as soon as both have passed. -/
theorem cadence_kept (r : Refresher) (interval : Duration) (provider : Nat → Course)
    (epoch : SystemTime) (cache : KeyCache) :
    let refresher := r.withInterval interval
    let period := max interval.toNanos Refresher.minInterval.toNanos
    let early := (Duration.ofMillis 5).toNanos
    let loopAt (moment : Nat) : Loop :=
      ((fresh epoch cache).pass refresher provider (fun _ => true) moment).loop
    ∃ starts ends : Nat → Nat,
      (∀ moment n, n < (loopAt moment).calls ↔ starts n ≤ moment) ∧
      (∀ moment n, (loopAt moment).HasEnded n ↔ ends n ≤ moment) ∧
      starts 0 = 0 ∧
      ∀ n, ends n = starts n + (provider n).span ∧
        max (ends n) (starts n + period - early) ≤ starts (n + 1) ∧
        starts (n + 1) ≤ max (ends n) (starts n + period) := by
  intro refresher period early loopAt
  have kept : refresher.interval.toNanos = period := r.toNanos_withInterval interval
  have spaced : grace < refresher.interval.toNanos :=
    Loop.grace_lt_interval ((le_max_right _ _).trans kept.ge)
  refine ⟨beginsAt refresher provider, endsAt refresher provider,
    lt_calls_pass_iff spaced epoch cache, hasEnded_pass_iff spaced epoch cache, rfl,
    fun n => ⟨rfl, ?_⟩⟩
  obtain ⟨soonest, latest⟩ := due_succ_bounds refresher provider n
  rw [kept] at soonest latest
  have lenient : grace = early := rfl
  rw [beginsAt_succ]
  omega

end Timeline

end Refresh

end TokenGate
