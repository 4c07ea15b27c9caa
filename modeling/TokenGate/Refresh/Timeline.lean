import TokenGate.Refresh.Loop

/-! # The loop in time

A loop watched and cancelled from outside, in a time that jumps from one moment at which something
is due to the next. -/

namespace TokenGate.Refresh

/-- A loop at a moment. -/
structure Timeline where
  loop : Loop := {}
  now : Nat := 0
  cancelled : Bool := false
  deriving Repr

namespace Timeline

/-- The loop learns at once that it is cancelled. -/
def react (r : Refresher) (provider : Nat → Course) (t : Timeline) : Timeline :=
  if t.cancelled then { t with loop := t.loop.poll r provider t.now true } else t

/-- Time passes up to a moment, or until a condition fails. -/
def pass (r : Refresher) (provider : Nat → Course) (goOn : Loop → Bool) (limit : Nat)
    (t : Timeline) : Timeline :=
  let t := t.react r provider
  { t with loop := t.loop.runWhile r provider t.cancelled goOn limit }

/-- Time passes up to a moment that lies ahead. -/
def advanceTo (r : Refresher) (provider : Nat → Course) (moment : Nat) (t : Timeline) : Timeline :=
  if t.now < moment then { t.pass r provider (fun _ => true) moment with now := moment } else t

def cancel (t : Timeline) : Timeline := { t with cancelled := true }

def isInitialized (t : Timeline) : Bool := t.loop.refresh.cache.isInitialized

/-- Time passes until the first install, for at most a span. An empty span is over before the loop
does anything. -/
def waitInstalled (r : Refresher) (provider : Nat → Course) (span : Nat) (t : Timeline) :
    Timeline :=
  if t.isInitialized || span == 0 then t
  else
    let t' := t.pass r provider (fun l => !l.refresh.cache.isInitialized) (t.now + span)
    { t' with now := if t'.isInitialized then max t.now t'.loop.polled else t.now + span }

/-- The loop is cancelled and has a span of time to return. -/
def stop (r : Refresher) (provider : Nat → Course) (span : Nat) (t : Timeline) : Timeline :=
  let limit := t.now + span
  let t := t.cancel.pass r provider (fun _ => true) limit
  { t with now := max t.now (t.loop.stoppedAt?.getD limit) }

def join (r : Refresher) (provider : Nat → Course) (t : Timeline) : Timeline :=
  let t := t.cancel.react r provider
  match t.loop.wake? with
  | none => t
  | some finish => t.pass r provider (fun _ => true) finish

end Timeline

end TokenGate.Refresh
