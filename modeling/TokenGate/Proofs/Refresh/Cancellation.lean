import TokenGate.Proofs.Refresh.Accounting

/-! # Cancellation

The loop is polled at moments that nobody chooses, and somewhere between two polls its token fires.
From then on no fetch begins. The loop returns in the next poll, and a fetch that is under way is
abandoned; a loop that finishes its fetches returns in the first poll that finds the fetch ended,
and applies its result before. -/

namespace TokenGate.Refresh

/-- What happens next to a loop and its token. -/
inductive Turn where
  /-- The loop is polled, so long after the turn before. -/
  | poll (wait : Nat)
  /-- The token fires. -/
  | cancel
  deriving DecidableEq, Repr

/-- Some of the turns is a poll. -/
def Polled (turns : List Turn) : Prop := ∃ wait, .poll wait ∈ turns

theorem not_polled_nil : ¬ Polled [] := by simp [Polled]

theorem Polled.of_append_cancel {turns : List Turn} (polled : Polled (turns ++ [.cancel])) :
    Polled turns := by
  obtain ⟨wait, found⟩ := polled
  exact ⟨wait, by simpa using found⟩

namespace Timeline

/-- A loop that has not been polled, over a cache, and its token. -/
def fresh (epoch : SystemTime) (cache : KeyCache) : Timeline where
  loop := { epoch := epoch, refresh := { cache := cache } }

section

variable (r : Refresher) (provider : Nat → Course)

/-- A turn taken. -/
def take (t : Timeline) : Turn → Timeline
  | .poll wait =>
    { t with loop := t.loop.poll r provider (t.now + wait) t.cancelled, now := t.now + wait }
  | .cancel => t.cancel

/-- What the loop does in a turn. -/
def deeds (t : Timeline) : Turn → List Deed
  | .poll wait => t.loop.deeds r provider (t.now + wait) t.cancelled
  | .cancel => []

/-- Turns taken one after another. -/
def play (t : Timeline) (turns : List Turn) : Timeline := turns.foldl (take r provider) t

def history : Timeline → List Turn → List Deed
  | _, [] => []
  | t, turn :: turns => t.deeds r provider turn ++ (t.take r provider turn).history turns

end

variable {r : Refresher} {provider : Nat → Course}

/-- A turn more is taken behind the others. -/
theorem play_concat (t : Timeline) (turns : List Turn) (turn : Turn) :
    t.play r provider (turns ++ [turn]) = (t.play r provider turns).take r provider turn := by
  simp [play, List.foldl_append]

theorem history_concat (t : Timeline) (turns : List Turn) (turn : Turn) :
    t.history r provider (turns ++ [turn]) =
      t.history r provider turns ++ (t.play r provider turns).deeds r provider turn := by
  induction turns generalizing t with
  | nil => simp [history, play]
  | cons first turns ih =>
    rw [List.cons_append, history, history, ih, List.append_assoc]
    rfl

/-- What polls preserve and the token cannot change, any turns preserve. -/
theorem play_induction {t : Timeline} {motive : List Turn → Timeline → List Deed → Prop}
    (none : motive [] t [])
    (poll : ∀ turns u done wait, motive turns u done → motive (turns ++ [.poll wait])
      (u.take r provider (.poll wait)) (done ++ u.deeds r provider (.poll wait)))
    (cancel : ∀ turns u done, motive turns u done → motive (turns ++ [.cancel]) u.cancel done)
    (turns : List Turn) : motive turns (t.play r provider turns) (t.history r provider turns) := by
  induction turns using List.reverseRecOn with
  | nil => exact none
  | append_singleton turns turn ih =>
    rw [play_concat, history_concat]
    cases turn with
    | poll wait => exact poll _ _ _ wait ih
    | cancel => simpa [deeds, take] using cancel _ _ _ ih

end Timeline

namespace Loop

variable {r : Refresher} {provider : Nat → Course} {now : Nat}

theorem advance?_poll_cancelled (l : Loop) :
    (l.poll r provider now true).advance? r provider now true = none :=
  advance?_poll (fun live => by cases live) l

/-- A loop since its cancellation, compared with the one before. -/
structure Ceased (l l' : Loop) (done : List Deed) : Prop where
  calls : l'.calls = l.calls
  attempts : l'.refresh.stats.attempts = l.refresh.stats.attempts
  quiet : .beginFetch ∉ done

/-- A cancelled loop that does anything begins no fetch by it. -/
theorem Ceased.next {l l' l'' : Loop} {done : List Deed} {deed : Deed}
    (ceased : l.Ceased l' done) (does : l'.Does r provider now true deed l'') :
    l.Ceased l'' (done ++ [deed]) := by
  obtain ⟨calls, attempts, quiet⟩ := ceased
  cases does with
  | start => exact ⟨calls, attempts, by simp [quiet]⟩
  | stop => exact ⟨calls, attempts, by simp [quiet]⟩
  | beginFetch _ live => cases live
  | abandonFetch => exact ⟨calls, attempts, by simp [quiet]⟩
  | @endFetch finish due course fetching =>
    have finished := RefreshState.complete_end r l'.refresh course.result (l'.epoch + now)
    exact ⟨calls, finished.attempts.trans attempts, by simp [quiet]⟩

theorem abandons_of_fetching {l : Loop} {finish due : Nat} {course : Course}
    (idle : l.inFlight = 0 ∨ r.cancelPolicy = .abandonInFlight)
    (fetching : l.phase = .fetching finish course due) : r.cancelPolicy = .abandonInFlight :=
  idle.resolve_left (by simp [inFlight, fetching])

/-- A cancelled loop that has no fetch to finish, compared with the one before. -/
structure Unfetched (r : Refresher) (l l' : Loop) (done : List Deed) : Prop where
  idle : l'.inFlight = 0 ∨ r.cancelPolicy = .abandonInFlight
  cache : l'.refresh.cache = l.refresh.cache
  stats : l'.refresh.stats = l.refresh.stats
  unended : ∀ outcome, .endFetch outcome ∉ done
  /-- A fetch is under way no longer only if it was abandoned. -/
  abandoned : l'.inFlight = l.inFlight ∨ .abandonFetch ∈ done

/-- A cancelled loop with no fetch to finish changes nothing but its log. -/
theorem Unfetched.next {l l' l'' : Loop} {done : List Deed} {deed : Deed}
    (unfetched : l.Unfetched r l' done) (does : l'.Does r provider now true deed l'') :
    l.Unfetched r l'' (done ++ [deed]) := by
  obtain ⟨idle, cache, stats, unended, abandoned⟩ := unfetched
  cases does with
  | start created =>
    have same : l'.inFlight = 0 := by rw [inFlight, created]
    exact ⟨Or.inl rfl, cache, stats, by simp [unended], by simpa [same] using abandoned⟩
  | stop waiting =>
    have same : l'.inFlight = 0 := by rw [inFlight, waiting]
    exact ⟨Or.inl rfl, cache, stats, by simp [unended], by simpa [same] using abandoned⟩
  | beginFetch _ live => cases live
  | abandonFetch => exact ⟨Or.inl rfl, cache, stats, by simp [unended], by simp⟩
  | endFetch fetching kept =>
    rw [abandons_of_fetching idle fetching] at kept
    cases kept rfl

/-- A cancelled loop without a fetch to finish has returned where nothing is due. -/
theorem Unfetched.not_isRunning {l l' : Loop} {done : List Deed} (unfetched : l.Unfetched r l' done)
    (settled : l'.advance? r provider now true = none) : l'.isRunning = false := by
  unfold advance? at settled
  split at settled
  · cases settled
  · cases settled
  · next fetching => simp [abandons_of_fetching unfetched.idle fetching] at settled
  · next stopped => rw [isRunning, stopped]

/-- How a fetch that is to be finished has gone on since the cancellation. -/
inductive Finishing (r : Refresher) (before : RefreshState) (epoch : SystemTime) (finish : Nat)
    (course : Course) (due now : Nat) (l : Loop) : List Deed → Prop
  | underWay (started : l.epoch = epoch) (phase : l.phase = .fetching finish course due)
      (refresh : l.refresh = before.attempt) : Finishing r before epoch finish course due now l []
  | applied (ripe : finish ≤ now) (phase : l.phase = .waiting due)
      (refresh : l.refresh = (before.refreshOnce r course.result (epoch + now)).1) :
      Finishing r before epoch finish course due now l
        [.endFetch (before.refreshOnce r course.result (epoch + now)).2]
  | returned {moment : Nat} (ripe : finish ≤ moment) (past : moment ≤ now)
      (phase : l.phase = .stopped moment)
      (refresh : l.refresh = (before.refreshOnce r course.result (epoch + moment)).1.logged
        [stopRecord (before.refreshOnce r course.result (epoch + moment)).1.stats]) :
      Finishing r before epoch finish course due now l
        [.endFetch (before.refreshOnce r course.result (epoch + moment)).2, .stop]

section

variable {before : RefreshState} {epoch : SystemTime} {finish due : Nat} {course : Course}

/-- The fetch under way is finished, and the loop returns in the poll that finds it ended. -/
theorem Finishing.next {l l' : Loop} {done : List Deed} {deed : Deed}
    (finishes : r.cancelPolicy = .finishInFlight)
    (finishing : l.Finishing r before epoch finish course due now done)
    (does : l.Does r provider now true deed l') :
    l'.Finishing r before epoch finish course due now (done ++ [deed]) := by
  cases finishing with
  | underWay started phase refresh =>
    cases does with
    | start created => cases phase.symm.trans created
    | stop waiting => cases phase.symm.trans waiting
    | beginFetch waiting => cases phase.symm.trans waiting
    | abandonFetch _ _ abandons => cases finishes.symm.trans abandons
    | endFetch fetching _ ripe =>
      obtain ⟨rfl, rfl, rfl⟩ := Phase.fetching.inj (phase.symm.trans fetching)
      rw [refresh, started]
      exact .applied ripe rfl (by rw [endFetch, refresh, started]; rfl)
  | applied ripe phase refresh =>
    cases does with
    | start created => cases phase.symm.trans created
    | stop waiting => exact .returned ripe le_rfl rfl (by rw [Loop.stop, refresh])
    | beginFetch _ live => cases live
    | abandonFetch fetching => cases phase.symm.trans fetching
    | endFetch fetching => cases phase.symm.trans fetching
  | returned _ _ phase =>
    have running := isRunning_of_does does
    rw [isRunning, phase] at running
    cases running

/-- Where nothing is due, the fetch has not ended, or the loop has returned behind it. -/
theorem Finishing.settled {l : Loop} {done : List Deed}
    (finishing : l.Finishing r before epoch finish course due now done)
    (settled : l.advance? r provider now true = none) :
    done = [] ∧ now < finish ∨ l.isRunning = false := by
  cases finishing with
  | underWay _ phase =>
    rw [advance?, phase] at settled
    dsimp only at settled
    split_ifs at settled with _ ripe
    exact Or.inl ⟨rfl, Nat.lt_of_not_le ripe⟩
  | applied _ phase =>
    rw [advance?, phase] at settled
    cases settled
  | returned _ _ phase => exact Or.inr (by rw [isRunning, phase])

/-- A fetch goes on while time passes. -/
theorem Finishing.later {l : Loop} {done : List Deed} {wait : Nat}
    (finishing : l.Finishing r before epoch finish course due now done)
    (settled : done = [] ∨ l.isRunning = false) :
    { l with polled := now + wait }.Finishing r before epoch finish course due (now + wait)
      done := by
  cases finishing with
  | underWay started phase refresh => exact .underWay started phase refresh
  | applied _ phase =>
    rw [isRunning, phase] at settled
    simp at settled
  | returned ripe past phase refresh => exact .returned ripe (by omega) phase refresh

/-- Between two polls the fetch is under way still, or the loop has returned behind its end. -/
theorem Finishing.ending {l : Loop} {done : List Deed} {ahead : Prop}
    (finishing : l.Finishing r before epoch finish course due now done)
    (settled : done = [] ∧ ahead ∨ l.isRunning = false) :
    (done = [] ∧ l.phase = .fetching finish course due ∧ l.refresh = before.attempt ∧ ahead) ∨
      ∃ moment, finish ≤ moment ∧ moment ≤ now ∧
        let (after, outcome) := before.refreshOnce r course.result (epoch + moment)
        done = [.endFetch outcome, .stop] ∧ l.phase = .stopped moment ∧
          l.refresh = after.logged [stopRecord after.stats] := by
  cases finishing with
  | underWay _ phase refresh =>
    have ahead : ahead := by simpa [isRunning, phase] using settled
    exact Or.inl ⟨rfl, phase, refresh, ahead⟩
  | applied _ phase => simp [isRunning, phase] at settled
  | returned ripe past phase refresh => exact Or.inr ⟨_, ripe, past, rfl, phase, refresh⟩

private theorem Finishing.generation_le {l : Loop} {done : List Deed}
    (finishing : l.Finishing r before epoch finish course due now done) :
    l.refresh.cache.generation ≤ before.cache.generation + 1 := by
  have applied (time : SystemTime) :=
    (RefreshState.complete_end r before.attempt course.result time).generation_le
  cases finishing with
  | underWay _ _ refresh => rw [refresh]; exact Nat.le_succ _
  | applied _ _ refresh => rw [refresh]; exact applied _
  | returned _ _ _ refresh => rw [refresh]; exact applied _

end

end Loop

namespace Timeline

variable {r : Refresher} {provider : Nat → Course}

/-- The counters of a loop are balanced whatever turns it has taken. -/
theorem balanced_play (epoch : SystemTime) (cache : KeyCache) (turns : List Turn) :
    ((fresh epoch cache).play r provider turns).loop.Balanced
      ((fresh epoch cache).history r provider turns) := by
  refine play_induction (motive := fun _ t done => t.loop.Balanced done) ?_ ?_ ?_ turns
  · exact ⟨rfl, rfl, Or.inl rfl, fun busy => by cases busy⟩
  · intro _ t done wait balanced
    refine Loop.poll_induction (motive := Loop.Balanced) ?_ ?_ balanced
    · exact fun _ _ _ _ balanced does => balanced.next does
    · exact fun _ _ _ balanced => ⟨balanced.begun, balanced.ended, balanced.abandoned,
        balanced.attempted⟩
  · exact fun _ _ _ balanced => balanced

/-- A token stays cancelled. -/
theorem cancelled_play (provider : Nat → Course) (t : Timeline) (turns : List Turn) :
    (t.play r provider turns).cancelled = (t.cancelled || decide (.cancel ∈ turns)) := by
  refine play_induction (motive := fun turns u _ =>
    u.cancelled = (t.cancelled || decide (.cancel ∈ turns))) ?_ ?_ ?_ turns
  · simp
  · intro turns u _ wait same
    simpa [take] using same
  · intro turns u _ _
    simp [cancel]

/-- Once the token has fired, only polls change anything, and they find it fired. -/
theorem fired_induction {t : Timeline} (fired : t.cancelled = true)
    {motive : List Turn → Nat → Loop → List Deed → Prop} (none : motive [] t.now t.loop [])
    (poll : ∀ turns now l done wait, motive turns now l done →
      motive (turns ++ [.poll wait]) (now + wait) (l.poll r provider (now + wait) true)
        (done ++ l.deeds r provider (now + wait) true))
    (cancel : ∀ turns now l done, motive turns now l done → motive (turns ++ [.cancel]) now l done)
    (turns : List Turn) :
    motive turns (t.play r provider turns).now (t.play r provider turns).loop
      (t.history r provider turns) := by
  refine (play_induction (motive := fun turns u done =>
    u.cancelled = true ∧ motive turns u.now u.loop done) ⟨fired, none⟩ ?_ ?_ turns).2
  · rintro turns u done wait ⟨still, holds⟩
    refine ⟨still, ?_⟩
    simpa only [take, deeds, still] using poll turns u.now u.loop done wait holds
  · rintro turns u done ⟨still, holds⟩
    exact ⟨rfl, cancel turns u.now u.loop done holds⟩

section

variable (provider) {t : Timeline} (fired : t.cancelled = true) (turns : List Turn)

include fired

/-- Turns behind the cancellation begin no fetch. -/
theorem ceased_play :
    t.loop.Ceased (t.play r provider turns).loop (t.history r provider turns) := by
  refine fired_induction (motive := fun _ _ l done => t.loop.Ceased l done) fired ?_ ?_ ?_ turns
  · exact ⟨rfl, rfl, by simp⟩
  · intro _ now l done wait ceased
    refine Loop.poll_induction (motive := t.loop.Ceased) ?_ ?_ ceased
    · exact fun _ _ _ _ ceased does => ceased.next does
    · exact fun _ _ _ ceased => ⟨ceased.calls, ceased.attempts, ceased.quiet⟩
  · exact fun _ _ _ _ ceased => ceased

/-- Without a fetch to finish, turns behind the cancellation apply nothing, and the first poll among
them ends the loop. -/
theorem unfetched_play (idle : t.loop.inFlight = 0 ∨ r.cancelPolicy = .abandonInFlight) :
    t.loop.Unfetched r (t.play r provider turns).loop (t.history r provider turns) ∧
      (Polled turns → (t.play r provider turns).loop.isRunning = false) := by
  refine fired_induction (motive := fun turns _ l done => t.loop.Unfetched r l done ∧
    (Polled turns → l.isRunning = false)) fired ?_ ?_ ?_ turns
  · exact ⟨⟨idle, rfl, rfl, by simp, Or.inl rfl⟩, fun polled => absurd polled not_polled_nil⟩
  · rintro turns now l done wait ⟨unfetched, -⟩
    have next : t.loop.Unfetched r (l.poll r provider (now + wait) true)
        (done ++ l.deeds r provider (now + wait) true) := by
      refine Loop.poll_induction (motive := t.loop.Unfetched r) ?_ ?_ unfetched
      · exact fun _ _ _ _ unfetched does => unfetched.next does
      · exact fun _ _ _ unfetched => ⟨unfetched.idle, unfetched.cache, unfetched.stats,
          unfetched.unended, unfetched.abandoned⟩
    exact ⟨next, fun _ => next.not_isRunning (Loop.advance?_poll_cancelled l)⟩
  · exact fun _ _ _ _ ⟨unfetched, returned⟩ =>
      ⟨unfetched, fun polled => returned polled.of_append_cancel⟩

/-- With a fetch to finish, turns behind the cancellation apply its result once, when it ends, and
nothing else. -/
theorem finishing_play (finishes : r.cancelPolicy = .finishInFlight) {finish due : Nat}
    {course : Course} (fetching : t.loop.phase = .fetching finish course due)
    {before : RefreshState} (attempted : t.loop.refresh = before.attempt) :
    (t.play r provider turns).loop.Finishing r before t.loop.epoch finish course due
        (t.play r provider turns).now (t.history r provider turns) ∧
      (t.history r provider turns = [] ∧ (Polled turns → (t.play r provider turns).now < finish) ∨
        (t.play r provider turns).loop.isRunning = false) := by
  refine fired_induction (motive := fun turns now l done =>
    l.Finishing r before t.loop.epoch finish course due now done ∧
      (done = [] ∧ (Polled turns → now < finish) ∨ l.isRunning = false)) fired ?_ ?_ ?_ turns
  · exact ⟨.underWay rfl fetching attempted,
      Or.inl ⟨rfl, fun polled => absurd polled not_polled_nil⟩⟩
  · rintro turns now l done wait ⟨finishing, settled⟩
    have next : (l.poll r provider (now + wait) true).Finishing r before t.loop.epoch finish course
        due (now + wait) (done ++ l.deeds r provider (now + wait) true) :=
      Loop.advanceUpTo_induction (motive := fun l done =>
          l.Finishing r before t.loop.epoch finish course due (now + wait) done)
        (fun _ _ _ _ finishing does => finishing.next finishes does) 4
        (finishing.later (settled.imp_left And.left))
    have settled := next.settled (Loop.advance?_poll_cancelled l)
    exact ⟨next, settled.imp_left fun ⟨unchanged, ahead⟩ => ⟨unchanged, fun _ => ahead⟩⟩
  · exact fun _ _ _ _ ⟨finishing, settled⟩ => ⟨finishing, settled.imp_left fun ⟨unchanged, ahead⟩ =>
      ⟨unchanged, fun polled => ahead polled.of_append_cancel⟩⟩

end

private theorem loop_play_of_not_polled (t : Timeline) {turns : List Turn}
    (unpolled : ¬ Polled turns) : (t.play r provider turns).loop = t.loop := by
  refine play_induction (motive := fun turns u _ => ¬ Polled turns → u.loop = t.loop) ?_ ?_ ?_ turns
    unpolled
  · exact fun _ => rfl
  · exact fun turns u _ wait _ unpolled => absurd ⟨wait, by simp⟩ unpolled
  · rintro turns u _ same unpolled
    exact same fun ⟨wait, polled⟩ => unpolled ⟨wait, by simp [polled]⟩

/-- How turns go on from a moment at which the token has fired. -/
structure WindsUp (r : Refresher) (provider : Nat → Course) (t : Timeline) (turns : List Turn) :
    Prop where
  /-- No fetch begins. -/
  quiet : .beginFetch ∉ t.history r provider turns
  calls : (t.play r provider turns).loop.calls = t.loop.calls
  attempts : (t.play r provider turns).loop.refresh.stats.attempts = t.loop.refresh.stats.attempts
  /-- Without a fetch to finish, nothing is applied. -/
  unended : t.loop.inFlight = 0 ∨ r.cancelPolicy = .abandonInFlight →
    (∀ outcome, .endFetch outcome ∉ t.history r provider turns) ∧
      (t.play r provider turns).loop.refresh.cache = t.loop.refresh.cache ∧
      (t.play r provider turns).loop.refresh.stats = t.loop.refresh.stats
  /-- Without a fetch to finish, the first poll is the last, and abandons what is under way. -/
  returned : t.loop.inFlight = 0 ∨ r.cancelPolicy = .abandonInFlight → Polled turns →
    (t.play r provider turns).loop.isRunning = false ∧
      (t.loop.inFlight = 1 → .abandonFetch ∈ t.history r provider turns)
  /-- With a fetch to finish, nothing happens in the polls before its end. The first poll behind
  that completes the cycle and is the last. -/
  finished : r.cancelPolicy = .finishInFlight → ∀ finish course due,
    t.loop.phase = .fetching finish course due → ∃ before : RefreshState,
      t.loop.refresh = before.attempt ∧
      (t.history r provider turns = [] ∧ (t.play r provider turns).loop.phase = t.loop.phase ∧
          (t.play r provider turns).loop.refresh = t.loop.refresh ∧
          (Polled turns → (t.play r provider turns).now < finish) ∨
        ∃ moment, finish ≤ moment ∧ moment ≤ (t.play r provider turns).now ∧
          let (after, outcome) := before.refreshOnce r course.result (t.loop.epoch + moment)
          t.history r provider turns = [.endFetch outcome, .stop] ∧
            (t.play r provider turns).loop.phase = .stopped moment ∧
            (t.play r provider turns).loop.refresh = after.logged [Loop.stopRecord after.stats])
  /-- One set is installed at most. -/
  generation : (t.play r provider turns).loop.refresh.cache.generation ≤
    t.loop.refresh.cache.generation + 1

private theorem windsUp_of_fired {t : Timeline} {done : List Deed} (balanced : t.loop.Balanced done)
    (fired : t.cancelled = true) (turns : List Turn) : t.WindsUp r provider turns := by
  have ceased := ceased_play (r := r) provider fired turns
  refine ⟨ceased.quiet, ceased.calls, ceased.attempts, fun idle => ?_, fun idle polled => ?_,
    fun finishes finish course due fetching => ?_, ?_⟩
  · obtain ⟨unfetched, -⟩ := unfetched_play provider fired turns idle
    exact ⟨unfetched.unended, unfetched.cache, unfetched.stats⟩
  · obtain ⟨unfetched, returns⟩ := unfetched_play provider fired turns idle
    refine ⟨returns polled, fun busy => unfetched.abandoned.resolve_left fun same => ?_⟩
    rw [Loop.inFlight_of_not_isRunning (returns polled), busy] at same
    cases same
  · obtain ⟨before, attempted⟩ := balanced.attempted (by rw [Loop.inFlight, fetching])
    obtain ⟨finishing, settled⟩ := finishing_play provider fired turns finishes fetching attempted
    refine ⟨before, attempted, ?_⟩
    rw [fetching, attempted]
    exact finishing.ending settled
  · by_cases idle : t.loop.inFlight = 0 ∨ r.cancelPolicy = .abandonInFlight
    · rw [(unfetched_play provider fired turns idle).1.cache]
      omega
    · obtain ⟨busy, keeps⟩ := not_or.1 idle
      obtain ⟨finish, course, due, fetching⟩ := Loop.exists_fetching busy
      obtain ⟨before, attempted⟩ := balanced.attempted (by rw [Loop.inFlight, fetching])
      have finishes : r.cancelPolicy = .finishInFlight := by
        cases policy : r.cancelPolicy with
        | abandonInFlight => exact absurd policy keeps
        | finishInFlight => rfl
      rw [attempted]
      exact (finishing_play provider fired turns finishes fetching attempted).1.generation_le

/-- Cancellation is safe, however the polls of a loop fall between the ticks, the ends of the
fetches and the moment at which the token fires. A poll goes on until the loop waits or has
returned. Once the token has fired the loop only winds up, and it has begun no fetch at all if it
was not polled before. A loop that has returned has counted every fetch, except for one that it
abandoned. -/
theorem cancellation_safe (r : Refresher) (provider : Nat → Course) (epoch : SystemTime)
    (cache : KeyCache) (turns : List Turn) :
    let t := (fresh epoch cache).play r provider turns
    let done := (fresh epoch cache).history r provider turns
    (Refresher.minInterval.toNanos ≤ r.interval.toNanos → ∀ wait,
      (t.take r provider (.poll wait)).loop.advance? r provider (t.now + wait) t.cancelled = none) ∧
    (.cancel ∈ turns → ∀ later, t.WindsUp r provider later ∧
      (¬ Polled turns → (t.play r provider later).loop.calls = 0 ∧
        (t.play r provider later).loop.refresh.stats.attempts = 0)) ∧
    t.loop.refresh.stats.attempts = t.loop.calls ∧
    (t.loop.isRunning = false → t.loop.refresh.stats.attempts =
      t.loop.refresh.stats.installs + t.loop.refresh.stats.failures +
        done.count (.endFetch .preservedOnEmpty) + if .abandonFetch ∈ done then 1 else 0) := by
  intro t done
  have balanced : t.loop.Balanced done := balanced_play epoch cache turns
  refine ⟨fun long wait => ?_, fun fires later => ?_, balanced.begun.symm, balanced.counted⟩
  · exact Loop.advance?_poll (fun _ => Loop.grace_lt_interval long) t.loop
  · have fired : t.cancelled = true := by
      rw [cancelled_play]
      simp [fires]
    have windsUp : t.WindsUp r provider later := windsUp_of_fired balanced fired later
    refine ⟨windsUp, fun unpolled => ?_⟩
    have unbegun : t.loop = (fresh epoch cache).loop := loop_play_of_not_polled _ unpolled
    refine ⟨windsUp.calls.trans ?_, windsUp.attempts.trans ?_⟩
    · rw [unbegun]
      rfl
    · rw [unbegun]
      rfl

/-- A loop that is cancelled while a fetch is under way, and finishes it. -/
theorem cancellation_safe_in_flight :
    let r : Refresher := { endpoint := "scripted", cancelPolicy := .finishInFlight }
    let provider : Nat → Course := fun _ => ⟨30000000000, .error .transport, []⟩
    let t := (fresh 0 .new).play r provider [.poll 0, .poll 5000000000, .cancel]
    t.loop.inFlight = 1 ∧ t.WindsUp r provider [.poll 0, .poll 25000000000] ∧
      t.history r provider [.poll 0, .poll 25000000000] = [.endFetch .failed, .stop] := by
  intro r provider t
  obtain ⟨-, windsUp, -⟩ := cancellation_safe r provider 0 .new [.poll 0, .poll 5000000000, .cancel]
  exact ⟨by decide +kernel, (windsUp (by decide) _).1, by decide +kernel⟩

end Timeline

end TokenGate.Refresh
