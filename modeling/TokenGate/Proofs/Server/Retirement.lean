import TokenGate.Proofs.Key.Entry
import TokenGate.Proofs.Server.Decision

/-! # What becomes of the loop

A start that fails behind the start of its loop cancels the loop, and serving cancels it however it
ends, but for one way: where the log takes up that the server listens, the address of the listener
is read before anything else, and if it cannot be read, serving ends and leaves the loop at work. -/

namespace TokenGate

namespace Refresh

section Overdue

variable {r : Refresher} {provider : Nat → Course} {now count : Nat} {l l' : Loop}

/-- A loop has begun more than so many fetches, or all that keeps it from that is over by a
moment. -/
inductive Loop.Overdue (now count : Nat) (l : Loop) : Prop
  | created (phase : l.phase = .created) (calls : count ≤ l.calls) : Overdue now count l
  | waiting {due : Nat} (phase : l.phase = .waiting due) (calls : count ≤ l.calls)
      (ripe : due ≤ now) : Overdue now count l
  | fetching {finish due : Nat} {course : Course} (phase : l.phase = .fetching finish course due)
      (calls : count ≤ l.calls) (ended : finish ≤ now) (ripe : due ≤ now) : Overdue now count l
  | begun (calls : count < l.calls) : Overdue now count l

/-- A loop that is not cancelled stays overdue until it has fetched. -/
theorem Loop.Overdue.next {deed : Deed} (overdue : l.Overdue now count)
    (does : l.Does r provider now false deed l') : l'.Overdue now count := by
  have calls : count ≤ l.calls := by
    cases overdue with
    | created _ calls => exact calls
    | waiting _ calls => exact calls
    | fetching _ calls => exact calls
    | begun calls => exact calls.le
  cases does with
  | start => exact .waiting rfl calls le_rfl
  | stop _ fired => cases fired
  | beginFetch => exact .begun (Nat.lt_succ_of_le calls)
  | abandonFetch _ fired => cases fired
  | endFetch fetching =>
    cases overdue with
    | created phase => cases phase.symm.trans fetching
    | waiting phase => cases phase.symm.trans fetching
    | fetching phase _ _ ripe =>
      obtain ⟨-, -, rfl⟩ := Phase.fetching.inj (phase.symm.trans fetching)
      exact .waiting rfl calls ripe
    | begun calls => exact .begun calls

private theorem Loop.Overdue.lt_calls (overdue : l.Overdue now count)
    (settled : l.advance? r provider now false = none) : count < l.calls := by
  unfold advance? at settled
  cases overdue with
  | created phase => simp [phase] at settled
  | waiting phase _ ripe => simp [phase, ripe] at settled
  | fetching phase _ ended => simp [phase, ended] at settled
  | begun calls => exact calls

/-- A loop that nobody cancels begins another fetch. -/
theorem Loop.exists_lt_calls_poll (provider : Nat → Course) (spaced : grace < r.interval.toNanos)
    (running : l.isRunning = true) (now : Nat) :
    ∃ wait, l.calls < (l.poll r provider (now + wait) false).calls := by
  have late : ∃ wait, l.Overdue (now + wait) l.calls := by
    cases phase : l.phase with
    | created => exact ⟨0, .created phase le_rfl⟩
    | waiting due => exact ⟨due, .waiting phase le_rfl (Nat.le_add_left _ _)⟩
    | fetching finish course due =>
      exact ⟨finish + due, .fetching phase le_rfl (by omega) (by omega)⟩
    | stopped => simp [isRunning, phase] at running
  obtain ⟨wait, overdue⟩ := late
  refine ⟨wait, Loop.Overdue.lt_calls ?_ (advance?_poll (fun _ => spaced) l)⟩
  refine poll_preserves (fun _ _ _ overdue does => overdue.next does) ?_ overdue
  intro l' moment overdue
  cases overdue with
  | created phase calls => exact .created phase calls
  | waiting phase calls ripe => exact .waiting phase calls ripe
  | fetching phase calls ended ripe => exact .fetching phase calls ended ripe
  | begun calls => exact .begun calls

end Overdue

namespace Timeline

variable (r : Refresher) (provider : Nat → Course)

private theorem cancelled_pass (goOn : Loop → Bool) (limit : Nat) (t : Timeline) :
    (t.pass r provider goOn limit).cancelled = t.cancelled := by
  unfold pass react
  split <;> rfl

private theorem cancelled_stop (span : Nat) (t : Timeline) :
    (t.stop r provider span).cancelled = true :=
  cancelled_pass r provider (fun _ => true) (t.now + span) t.cancel

end Timeline

end Refresh

open Refresh

namespace RefreshTask

/-- No fetch begins any more, whatever turns the loop still takes. -/
def Retired (task : RefreshTask) : Prop :=
  ∀ turns, (task.timeline.play task.refresher task.provider turns).loop.calls =
    task.timeline.loop.calls

variable {task : RefreshTask}

private theorem retired_of_isCancelled (cancelled : task.isCancelled = true) : task.Retired :=
  fun turns => (Timeline.ceased_play task.provider cancelled turns).calls

private theorem isCancelled_of_retired (spaced : grace < task.refresher.interval.toNanos)
    (running : task.timeline.loop.isRunning = true) (retired : task.Retired) :
    task.isCancelled = true := by
  by_contra live
  have live : task.timeline.cancelled = false := Bool.eq_false_iff.2 live
  obtain ⟨wait, more⟩ := Loop.exists_lt_calls_poll task.provider spaced running task.timeline.now
  have same := retired [.poll wait]
  rw [Timeline.play, List.foldl_cons, List.foldl_nil, Timeline.take, live] at same
  exact absurd same more.ne'

/-- Stopping cancels. -/
theorem isCancelled_stop (task : RefreshTask) (timeout : Duration) :
    (task.stop timeout).1.isCancelled = true :=
  Timeline.cancelled_stop task.refresher task.provider timeout.toNanos task.timeline

end RefreshTask

namespace Server

variable {around : Surroundings} {l : Launch}

/-- Once its loop is at work, a start is given up or leads to a server. -/
theorem startWith_cases (around : Surroundings) (l : Launch) (v : Validator) (task : RefreshTask) :
    (∃ timeout e task' log, startWith around l v task = abort timeout e task' log) ∨
      ∃ server, (startWith around l v task).result = .ok server := by
  unfold startWith
  dsimp only
  split
  · exact Or.inl ⟨_, _, _, _, rfl⟩
  · split_ifs
    · exact Or.inr ⟨_, rfl⟩
    · exact Or.inl ⟨_, _, _, _, rfl⟩

private theorem start_cases (around : Surroundings) (l : Launch) :
    (start around l).refresh = none ∨
      ∃ v task, start around l = startWith around l v task := by
  unfold start
  dsimp only
  split
  · exact Or.inl rfl
  · split
    · exact Or.inl rfl
    · split
      · exact Or.inl rfl
      · exact Or.inr ⟨_, _, rfl⟩

/-- A start that fails leaves no loop, or one that is cancelled. -/
theorem isCancelled_of_start {e : StartupError} {task : RefreshTask}
    (failed : (start around l).result = .error e)
    (spawned : (start around l).refresh = some task) : task.isCancelled = true := by
  rcases start_cases around l with unspawned | ⟨v, first, began⟩
  · rw [unspawned] at spawned
    cases spawned
  · rw [began] at failed spawned
    rcases startWith_cases around l v first with ⟨timeout, e', last, log, aborted⟩ | ⟨server, ok⟩
    · rw [aborted] at spawned
      obtain rfl := Option.some.inj spawned
      exact last.isCancelled_stop timeout
    · rw [ok] at failed
      cases failed

variable {server : Server}

/-- The loop of a server that has started is at work. -/
theorem undisturbed_of_start (started : (start around l).result = .ok server) :
    grace < server.refresh.refresher.interval.toNanos ∧
      server.refresh.timeline.Undisturbed server.refresh.refresher server.refresh.provider 0
        .new := by
  obtain ⟨f, -, refresh, -⟩ := start_eq_ok started
  have spaced := grace_lt_ofSettings f.endpoint.write l.settings
  obtain ⟨task, wait, refresher, scripted, left, -⟩ :=
    waited_task (around.provider f) l.settings.startupTimeout spaced
  rw [refresh, wait, refresher, scripted]
  exact ⟨spaced, left⟩

private theorem isCancelled_serveHttp (server : Server) (how : Serving) :
    (server.serveHttp how).refresh.isCancelled = true := by
  unfold serveHttp
  dsimp only
  split
  · exact RefreshTask.isCancelled_stop _ _
  · exact RefreshTask.isCancelled_stop _ _

/-- Where the address of the listener can be read or need not be, serving cancels the loop. -/
theorem isCancelled_serve (server : Server) {how : Serving}
    (begins : how.enabled .info = true → how.localAddress ≠ none) :
    (server.serve how).refresh.isCancelled = true := by
  unfold serve
  split_ifs with stuck
  · rw [Bool.and_eq_true, Option.isNone_iff_eq_none] at stuck
    exact absurd stuck.2 (begins stuck.1)
  · exact isCancelled_serveHttp server how

private theorem serve_of_unreadable {how : Serving} (told : how.enabled .info = true)
    (unreadable : how.localAddress = none) :
    server.serve how = ⟨.error .localAddress, server.refresh, []⟩ := by
  unfold serve
  rw [told, unreadable]
  rfl

/-- What is left of the loop where starting or serving is over. Behind a start that fails there is
no loop, or one that begins no fetch any more. Behind every end of serving the loop is cancelled and
begins no fetch, unless the log was to tell the address of the listener and it could not be read:
then the loop is left as it was, at work and not cancelled. -/
theorem retired_iff_localAddress (around : Surroundings) (l : Launch) :
    (∀ e task, (start around l).result = .error e → (start around l).refresh = some task →
      task.isCancelled = true ∧ task.Retired) ∧
    ∀ server, (start around l).result = .ok server → ∀ how : Serving,
      let left := (server.serve how).refresh
      (left.isCancelled = true ↔ (how.enabled .info = true → how.localAddress ≠ none)) ∧
      (left.Retired ↔ (how.enabled .info = true → how.localAddress ≠ none)) ∧
      (how.enabled .info = true → how.localAddress = none →
        (server.serve how).result = .error .localAddress ∧ left = server.refresh) := by
  refine ⟨fun e task failed spawned => ?_, fun server started how => ?_⟩
  · have cancelled := isCancelled_of_start failed spawned
    exact ⟨cancelled, RefreshTask.retired_of_isCancelled cancelled⟩
  · obtain ⟨spaced, left⟩ := undisturbed_of_start started
    by_cases begins : how.enabled .info = true → how.localAddress ≠ none
    · have cancelled := isCancelled_serve server begins
      have retired := RefreshTask.retired_of_isCancelled cancelled
      exact ⟨iff_of_true cancelled begins, iff_of_true retired begins,
        fun told unreadable => absurd unreadable (begins told)⟩
    · obtain ⟨told, unreadable⟩ := Classical.not_imp.1 begins
      have unreadable := Classical.not_not.1 unreadable
      have live : server.refresh.isCancelled = false := left.live
      have running := left.on.place.isRunning
      have unretired : ¬ server.refresh.Retired := fun retired => by
        rw [RefreshTask.isCancelled_of_retired spaced running retired] at live
        cases live
      rw [serve_of_unreadable told unreadable]
      exact ⟨iff_of_false (Bool.eq_false_iff.1 live) begins, iff_of_false unretired begins,
        fun _ _ => ⟨rfl, rfl⟩⟩

/-- A server that is to tell the address of its listener and cannot read it leaves its loop at work,
and the next fetch begins with the next tick. -/
theorem loop_left_behind :
    let around : Surroundings := ⟨true, fun _ _ => ⟨0, .error .transport, []⟩, fun _ => true⟩
    let l : Launch := { tenant := some "acme", audience := "api" }
    ∃ server, (start around l).result = .ok server ∧
      let served := server.serve { localAddress := none, signal := none }
      served.result = .error .localAddress ∧ served.refresh.isCancelled = false ∧
        served.refresh.timeline.loop.calls <
          (served.refresh.advance 900000000000).timeline.loop.calls := by
  intro around l
  have evaluated : ((start around l).result.toOption.any fun server =>
      decide (server.refresh.timeline.loop.calls <
        (server.refresh.advance 900000000000).timeline.loop.calls)) = true := by decide +kernel
  obtain ⟨server, started, more⟩ := exists_ok_of_any evaluated
  obtain ⟨-, left⟩ := undisturbed_of_start started
  exact ⟨server, started, rfl, left.live, of_decide_eq_true more⟩

end Server

end TokenGate
