import Mathlib
import TokenGate.Refresh.Timeline

/-! # What the loop does at one moment

Polled, the loop does one thing after another until it waits or has returned. Each thing is named
here with its conditions and the loop behind it, once for all proofs: what all of them preserve, a
poll preserves, and so does any run that is made of polls. A poll never leaves anything undone that
is due, since the ticks are further apart than the grace. -/

namespace TokenGate.Refresh

/-- A thing that the loop does. -/
inductive Deed where
  | start
  | beginFetch
  | endFetch (outcome : RefreshOutcome)
  | abandonFetch
  | stop
  deriving DecidableEq, Repr

namespace Loop

section

variable (r : Refresher) (provider : Nat → Course) (now : Nat) (cancelled : Bool)

/-- What the loop does at a moment, and the loop behind it. Cancellation comes before anything else
that is due. -/
inductive Does (l : Loop) : Deed → Loop → Prop
  | start (created : l.phase = .created) : Does l .start (l.start r now)
  | stop {due : Nat} (waiting : l.phase = .waiting due) (fired : cancelled = true) :
      Does l .stop (l.stop now)
  | beginFetch {due : Nat} (waiting : l.phase = .waiting due) (live : cancelled = false)
      (ripe : due ≤ now) : Does l .beginFetch (l.beginFetch r provider now due)
  | abandonFetch {finish due : Nat} {course : Course}
      (fetching : l.phase = .fetching finish course due) (fired : cancelled = true)
      (policy : r.cancelPolicy = .abandonInFlight) :
      Does l .abandonFetch ({ l with refresh := l.refresh.logged [abandonRecord] }.stop now)
  | endFetch {finish due : Nat} {course : Course}
      (fetching : l.phase = .fetching finish course due)
      (kept : cancelled = true → r.cancelPolicy = .finishInFlight) (ripe : finish ≤ now) :
      Does l (.endFetch (l.refresh.complete r course.result (l.epoch + now)).2)
        (l.endFetch r course now due)

/-- The next thing that the loop does at a moment. -/
def deed? (l : Loop) : Option Deed :=
  match l.phase with
  | .created => some .start
  | .waiting due => if cancelled then some .stop else if due ≤ now then some .beginFetch else none
  | .fetching finish course _ =>
    if cancelled && r.cancelPolicy == .abandonInFlight then some .abandonFetch
    else if finish ≤ now then
      some (.endFetch (l.refresh.complete r course.result (l.epoch + now)).2)
    else none
  | .stopped _ => none

/-- Up to so many things that the loop does one after another. -/
def deedsUpTo : Nat → Loop → List Deed
  | 0, _ => []
  | count + 1, l =>
    match l.advance? r provider now cancelled with
    | some l' => (l.deed? r now cancelled).toList ++ deedsUpTo count l'
    | none => []

/-- A bound on how many things the loop does at a moment before it waits. -/
def pending (l : Loop) : Nat :=
  match l.phase with
  | .created => 3
  | .waiting due => if cancelled then 1 else if due ≤ now then 2 else 0
  | .fetching _ _ due => if cancelled then 2 else if due ≤ now then 3 else 1
  | .stopped _ => 0

/-- What a loop does in a poll. -/
def deeds (l : Loop) : List Deed :=
  { l with polled := now }.deedsUpTo r provider now cancelled 4

end

variable {r : Refresher} {provider : Nat → Course} {now : Nat} {cancelled : Bool}

/-- Whatever a loop does next is one of its deeds. -/
theorem does_of_advance? {l l' : Loop} (advanced : l.advance? r provider now cancelled = some l') :
    ∃ deed, l.Does r provider now cancelled deed l' := by
  unfold advance? at advanced
  split at advanced
  · next created =>
    obtain rfl := Option.some.inj advanced
    exact ⟨_, .start created⟩
  · next due waiting =>
    split_ifs at advanced with fired ripe
    · obtain rfl := Option.some.inj advanced
      exact ⟨_, .stop waiting fired⟩
    · obtain rfl := Option.some.inj advanced
      exact ⟨_, .beginFetch waiting (Bool.eq_false_iff.2 fired) ripe⟩
  · next finish course due fetching =>
    split_ifs at advanced with dropped ripe
    · obtain rfl := Option.some.inj advanced
      obtain ⟨fired, policy⟩ := Bool.and_eq_true_iff.1 dropped
      exact ⟨_, .abandonFetch fetching fired (beq_iff_eq.1 policy)⟩
    · obtain rfl := Option.some.inj advanced
      refine ⟨_, .endFetch fetching ?_ ripe⟩
      intro fired
      cases policy : r.cancelPolicy with
      | abandonInFlight => simp [fired, policy] at dropped
      | finishInFlight => rfl
  · cases advanced

private theorem deed?_of_does {deed : Deed} {l l' : Loop}
    (does : l.Does r provider now cancelled deed l') : l.deed? r now cancelled = some deed := by
  unfold deed?
  cases does with
  | start created => rw [created]
  | stop waiting fired => simp [waiting, fired]
  | beginFetch waiting live ripe => simp [waiting, live, ripe]
  | abandonFetch fetching fired policy => simp [fetching, fired, policy]
  | endFetch fetching kept ripe =>
    cases cancelled with
    | false => simp [fetching, ripe]
    | true => simp [fetching, kept rfl, ripe]

/-- The tick behind one that is served lies ahead. -/
theorem lt_nextTick {interval due served : Nat} (spaced : grace < interval) :
    served < nextTick interval due served := by
  unfold nextTick
  split <;> omega

/-- No interval that a refresher may have is as short as the grace. -/
theorem grace_lt_interval {interval : Duration}
    (long : Refresher.minInterval.toNanos ≤ interval.toNanos) : grace < interval.toNanos :=
  lt_of_lt_of_le (by decide) long

private theorem pending_lt_of_does (spaced : cancelled = false → grace < r.interval.toNanos)
    {deed : Deed} {l l' : Loop} (does : l.Does r provider now cancelled deed l') :
    l'.pending now cancelled < l.pending now cancelled := by
  unfold pending
  cases does with
  | start created => cases cancelled <;> simp [Loop.start, created]
  | stop waiting fired => simp [Loop.stop, waiting, fired]
  | @beginFetch due waiting live ripe =>
    have ahead : ¬ nextTick r.interval.toNanos due now ≤ now :=
      Nat.not_le.2 (lt_nextTick (spaced live))
    simp [Loop.beginFetch, waiting, live, ripe, ahead]
  | abandonFetch fetching fired => simp [Loop.stop, fetching, fired]
  | endFetch fetching =>
    simp only [Loop.endFetch, fetching]
    split_ifs <;> omega

/-- With enough steps the loop goes on until it waits or has returned. -/
theorem advance?_advanceUpTo (spaced : cancelled = false → grace < r.interval.toNanos) (count : Nat)
    {l : Loop} (enough : l.pending now cancelled ≤ count) :
    (l.advanceUpTo r provider now cancelled count).advance? r provider now cancelled = none := by
  induction count generalizing l with
  | zero =>
    rw [advanceUpTo, Option.eq_none_iff_forall_ne_some]
    intro l' advanced
    obtain ⟨deed, does⟩ := does_of_advance? advanced
    have := pending_lt_of_does spaced does
    omega
  | succ count ih =>
    unfold advanceUpTo
    cases advanced : l.advance? r provider now cancelled with
    | none => exact advanced
    | some l' =>
      obtain ⟨deed, does⟩ := does_of_advance? advanced
      have := pending_lt_of_does spaced does
      exact ih (by omega)

/-- A poll ends where the loop waits or has returned. -/
theorem advance?_poll (spaced : cancelled = false → grace < r.interval.toNanos) (l : Loop) :
    (l.poll r provider now cancelled).advance? r provider now cancelled = none := by
  refine advance?_advanceUpTo spaced 4 ?_
  unfold pending
  split
  · omega
  · split_ifs <;> omega
  · split_ifs <;> omega
  · omega

/-- What everything that the loop does preserves, it preserves one after another. -/
theorem advanceUpTo_induction {motive : Loop → List Deed → Prop}
    (step : ∀ l done deed l', motive l done → l.Does r provider now cancelled deed l' →
      motive l' (done ++ [deed])) (count : Nat) {l : Loop} {done : List Deed}
    (holds : motive l done) :
    motive (l.advanceUpTo r provider now cancelled count)
      (done ++ l.deedsUpTo r provider now cancelled count) := by
  induction count generalizing l done with
  | zero => simpa [advanceUpTo, deedsUpTo] using holds
  | succ count ih =>
    unfold advanceUpTo deedsUpTo
    cases advanced : l.advance? r provider now cancelled with
    | none => simpa using holds
    | some l' =>
      obtain ⟨deed, does⟩ := does_of_advance? advanced
      have next := ih (step l done deed l' holds does)
      simpa [deed?_of_does does] using next

/-- What everything that the loop does preserves, a poll preserves, unless it is about the moment of
the last poll. -/
theorem poll_induction {motive : Loop → List Deed → Prop}
    (step : ∀ l done deed l', motive l done → l.Does r provider now cancelled deed l' →
      motive l' (done ++ [deed]))
    (untimed : ∀ l done moment, motive l done → motive { l with polled := moment } done)
    {l : Loop} {done : List Deed} (holds : motive l done) :
    motive (l.poll r provider now cancelled) (done ++ l.deeds r provider now cancelled) :=
  advanceUpTo_induction step 4 (untimed l done now holds)

/-- The same for the loop alone. -/
theorem poll_preserves {motive : Loop → Prop}
    (step : ∀ l deed l', motive l → l.Does r provider now cancelled deed l' → motive l')
    (untimed : ∀ l moment, motive l → motive { l with polled := moment }) {l : Loop}
    (holds : motive l) : motive (l.poll r provider now cancelled) :=
  @poll_induction r provider now cancelled (fun l _ => motive l) (fun l _ deed l' => step l deed l')
    (fun l _ => untimed l) l [] holds

/-- What every deed keeps, a run keeps. -/
theorem runWhile_preserves {motive : Loop → Prop}
    (step : ∀ now l deed l', motive l → l.Does r provider now cancelled deed l' → motive l')
    (untimed : ∀ l moment, motive l → motive { l with polled := moment }) (goOn : Loop → Bool)
    (limit : Nat) {l : Loop} (holds : motive l) :
    motive (l.runWhile r provider cancelled goOn limit) := by
  fun_induction runWhile r provider cancelled goOn limit l with
  | case1 l => exact holds
  | case2 l now _ _ l' => exact poll_preserves (step now) untimed holds
  | case3 l now _ _ l' next _ _ ih => exact ih (poll_preserves (step now) untimed holds)
  | case4 l now _ _ l' next => exact poll_preserves (step now) untimed holds
  | case5 l => exact holds

end Loop

end TokenGate.Refresh
