import TokenGate.Server.Startup

/-! # How starting ends

The settings are checked first, and each of the steps behind the check can end the start for one
reason only. A server that has started has gone through the wait for keys. -/

namespace TokenGate

/-- Starting fails because of what the operator has configured. -/
def StartupError.isConfiguration : StartupError → Bool
  | settings _ | fetcher _ | validator _ => true
  | noKeys _ | address _ => false

namespace Server

variable {s : Settings} {task task' : RefreshTask} {log : Log}

private theorem awaitKeys_eq_ok (awaited : awaitKeys s task = (task', .ok (), log)) :
    task' = task.waitInstalled s.startupTimeout ∧
      (s.requireKeys = true → task'.cache.isInitialized = true) := by
  unfold awaitKeys at awaited
  dsimp only at awaited
  split at awaited
  · next initialized =>
    obtain ⟨rfl, -⟩ := Prod.mk.inj awaited
    exact ⟨rfl, fun _ => initialized⟩
  · split at awaited
    · cases awaited
    · next optional =>
      obtain ⟨rfl, -⟩ := Prod.mk.inj awaited
      exact ⟨rfl, fun required => absurd required optional⟩

private theorem awaitKeys_eq_error {e : StartupError}
    (awaited : awaitKeys s task = (task', .error e, log)) :
    e = .noKeys s.startupTimeout := by
  unfold awaitKeys at awaited
  dsimp only at awaited
  split at awaited
  · cases awaited
  · split at awaited
    · obtain ⟨-, failed⟩ := Prod.mk.inj awaited
      exact (Except.error.inj (Prod.mk.inj failed).1).symm
    · cases awaited

theorem abort_result (timeout : Duration) (e : StartupError) (task : RefreshTask) (log : Log) :
    (abort timeout e task log).result = .error e := rfl

variable {around : Surroundings} {l : Launch} {server : Server}

private theorem startWith_eq_ok {v : Validator}
    (started : (startWith around l v task).result = .ok server) :
    server.refresh = task.waitInstalled l.settings.startupTimeout ∧
      (l.requireKeys = true → server.refresh.cache.isInitialized = true) := by
  unfold startWith at started
  dsimp only at started
  split at started
  · rw [abort_result] at started
    cases started
  · next awaited =>
    obtain ⟨waited, initialized⟩ := awaitKeys_eq_ok awaited
    split at started
    · obtain rfl := Except.ok.inj started
      exact ⟨waited, initialized⟩
    · rw [abort_result] at started
      cases started

/-- A server that has started has waited for the fetches of its own fetcher. -/
theorem start_eq_ok (started : (start around l).result = .ok server) :
    ∃ f, fetcher around l.settings = .ok f ∧
      server.refresh = RefreshTask.waitInstalled
        ⟨.ofSettings f.endpoint.write l.settings, around.provider f, {}⟩ l.settings.startupTimeout ∧
      (l.requireKeys = true → server.refresh.cache.isInitialized = true) := by
  unfold start at started
  dsimp only at started
  split at started
  · cases started
  split at started
  · cases started
  split at started
  · cases started
  · next f built _ v _ => exact ⟨f, built, startWith_eq_ok started⟩

theorem isConfiguration_of_startWith {v : Validator} {e : StartupError}
    (failed : (startWith around l v task).result = .error e) : e.isConfiguration = false := by
  unfold startWith at failed
  dsimp only at failed
  split at failed
  · next awaited =>
    rw [abort_result] at failed
    obtain rfl := Except.error.inj failed
    rw [awaitKeys_eq_error awaited]
    rfl
  · split at failed
    · cases failed
    · rw [abort_result] at failed
      obtain rfl := Except.error.inj failed
      rfl

end Server

end TokenGate
