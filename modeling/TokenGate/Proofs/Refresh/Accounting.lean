import TokenGate.Proofs.Refresh.Steps

/-! # What becomes of the fetches that are begun

A fetch that ends is an install, a failure, or a set that is kept, and counts as that once. So every
fetch that is begun is under way, or was abandoned, or is found again in the counters. -/

namespace TokenGate

/-- A fetch brings a document, with usable keys or without. -/
def BringsDocument (fetch : FetchResult) : Prop :=
  (∃ set, fetch.1 = .ok set) ∨ ∃ n, fetch.1 = .error (.noUsableKeys n)

/-- What the end of a fetch does to the cache and to the counters, and how it is answered. -/
inductive RefreshEnd (r : Refresher) (s : RefreshState) (fetch : FetchResult) (time : SystemTime)
    (s' : RefreshState) : RefreshOutcome → Prop
  | installed {set : KeySet} (fetched : fetch.1 = .ok set)
      (cache : s'.cache = s.cache.install set)
      (stats : s'.stats = { s.stats with installs := s.stats.installs + 1 }) :
      RefreshEnd r s fetch time s' (.installed (s.cache.generation + 1) set.size)
  | emptied {n : UInt64} (fetched : fetch.1 = .error (.noUsableKeys n))
      (gone : r.emptyPolicy = .preserveExisting → s.cache.current.keys = [])
      (cache : s'.cache = s.cache.install (.empty time))
      (stats : s'.stats = { s.stats with
        installs := s.stats.installs + 1, emptyFetches := s.stats.emptyFetches + 1 }) :
      RefreshEnd r s fetch time s' (.installed (s.cache.generation + 1) 0)
  | kept {n : UInt64} (fetched : fetch.1 = .error (.noUsableKeys n))
      (policy : r.emptyPolicy = .preserveExisting) (held : s.cache.current.keys ≠ [])
      (cache : s'.cache = s.cache)
      (stats : s'.stats = { s.stats with emptyFetches := s.stats.emptyFetches + 1 }) :
      RefreshEnd r s fetch time s' .preservedOnEmpty
  | failed {reason : FetchError} (fetched : fetch.1 = .error reason)
      (other : ∀ n, reason ≠ .noUsableKeys n) (cache : s'.cache = s.cache)
      (stats : s'.stats = { s.stats with failures := s.stats.failures + 1 }) :
      RefreshEnd r s fetch time s' .failed

/-- A result that is applied ends its cycle in one of the four ways. -/
theorem RefreshState.complete_end (r : Refresher) (s : RefreshState) (fetch : FetchResult)
    (time : SystemTime) :
    RefreshEnd r s fetch time (complete r s fetch time).1 (complete r s fetch time).2 := by
  unfold complete
  split
  · next set fetched => exact .installed fetched rfl rfl
  · next n fetched =>
    unfold emptied
    dsimp only
    split_ifs with held
    · simp only [Bool.and_eq_true, beq_iff_eq, Bool.not_eq_true', KeySet.isEmpty,
        List.isEmpty_eq_false_iff] at held
      exact .kept fetched held.1 held.2 rfl rfl
    · refine .emptied fetched (fun policy => ?_) rfl rfl
      by_contra keys
      exact held (by simpa [policy, KeySet.isEmpty, logged] using keys)
  · next reason other fetched => exact .failed fetched (fun n same => other n same) rfl rfl

namespace RefreshEnd

variable {r : Refresher} {s s' : RefreshState} {fetch : FetchResult} {time : SystemTime}
variable {outcome : RefreshOutcome}

theorem attempts (ended : RefreshEnd r s fetch time s' outcome) :
    s'.stats.attempts = s.stats.attempts := by
  cases ended with
  | installed _ _ stats => rw [stats]
  | emptied _ _ _ stats => rw [stats]
  | kept _ _ _ _ stats => rw [stats]
  | failed _ _ _ stats => rw [stats]

/-- A fetch that ends counts once. -/
theorem counted (ended : RefreshEnd r s fetch time s' outcome) :
    s'.stats.installs + s'.stats.failures + (if outcome = .preservedOnEmpty then 1 else 0) =
      s.stats.installs + s.stats.failures + 1 := by
  cases ended with
  | installed _ _ stats => rw [stats]; simp only [reduceCtorEq, if_false]; omega
  | emptied _ _ _ stats => rw [stats]; simp only [reduceCtorEq, if_false]; omega
  | kept _ _ _ _ stats => rw [stats]; rfl
  | failed _ _ _ stats => rw [stats]; simp only [reduceCtorEq, if_false]; omega

/-- The end of a fetch installs one set at most. -/
theorem generation_le (ended : RefreshEnd r s fetch time s' outcome) :
    s'.cache.generation ≤ s.cache.generation + 1 := by
  cases ended with
  | installed _ cache => rw [cache, KeyCache.generation_install]
  | emptied _ _ cache => rw [cache, KeyCache.generation_install]
  | kept _ _ _ cache => rw [cache]; omega
  | failed _ _ cache => rw [cache]; omega

/-- Something is installed as soon as a fetch has brought a document, with keys or without. -/
theorem isInitialized_iff (shown : s.cache.current.keys ≠ [] → s.cache.isInitialized = true)
    (ended : RefreshEnd r s fetch time s' outcome) :
    s'.cache.isInitialized = true ↔ s.cache.isInitialized = true ∨ BringsDocument fetch := by
  cases ended with
  | installed fetched cache =>
    simp [cache, KeyCache.isInitialized_install, BringsDocument, fetched]
  | emptied fetched _ cache =>
    simp [cache, KeyCache.isInitialized_install, BringsDocument, fetched]
  | kept _ _ held cache => simp [cache, shown held]
  | failed fetched other cache => simp [cache, BringsDocument, fetched, other]

/-- Only a document changes the cache. -/
theorem cache_eq (without : ¬ BringsDocument fetch)
    (ended : RefreshEnd r s fetch time s' outcome) : s'.cache = s.cache := by
  cases ended with
  | installed fetched => exact absurd (Or.inl ⟨_, fetched⟩) without
  | emptied fetched => exact absurd (Or.inr ⟨_, fetched⟩) without
  | kept _ _ _ cache => exact cache
  | failed _ _ cache => exact cache

/-- Keys are not there before the first install. -/
theorem isInitialized_of_keys (shown : s.cache.current.keys ≠ [] → s.cache.isInitialized = true)
    (ended : RefreshEnd r s fetch time s' outcome) (held : s'.cache.current.keys ≠ []) :
    s'.cache.isInitialized = true := by
  cases ended with
  | installed _ cache => rw [cache, KeyCache.isInitialized_install]
  | emptied _ _ cache => rw [cache, KeyCache.isInitialized_install]
  | kept _ _ _ cache => rw [cache] at held ⊢; exact shown held
  | failed _ _ cache => rw [cache] at held ⊢; exact shown held

end RefreshEnd

namespace Refresh

/-- How many fetches of a loop are under way. -/
def Loop.inFlight (l : Loop) : Nat :=
  match l.phase with
  | .fetching .. => 1
  | _ => 0

/-- A fetch of a loop has ended, by its number. -/
def Loop.HasEnded (l : Loop) (n : Nat) : Prop := n + l.inFlight < l.calls

/-- The counters of a loop account for what it has done. -/
structure Loop.Balanced (l : Loop) (done : List Deed) : Prop where
  begun : l.calls = l.refresh.stats.attempts
  ended : l.refresh.stats.attempts = l.refresh.stats.installs + l.refresh.stats.failures +
    done.count (.endFetch .preservedOnEmpty) + done.count .abandonFetch + l.inFlight
  /-- An abandoned fetch is the last one. -/
  abandoned : done.count .abandonFetch = 0 ∨ done.count .abandonFetch = 1 ∧ l.isRunning = false
  /-- The state under a fetch is the one before it, with an attempt more. -/
  attempted : l.inFlight = 1 → ∃ before : RefreshState, l.refresh = before.attempt

namespace Loop

@[simp] theorem inFlight_start (l : Loop) (r : Refresher) (now : Nat) :
    (l.start r now).inFlight = 0 := rfl

@[simp] theorem inFlight_stop (l : Loop) (now : Nat) : (l.stop now).inFlight = 0 := rfl

@[simp] theorem inFlight_beginFetch (l : Loop) (r : Refresher) (provider : Nat → Course)
    (now due : Nat) : (l.beginFetch r provider now due).inFlight = 1 := rfl

@[simp] theorem inFlight_endFetch (l : Loop) (r : Refresher) (course : Course) (now due : Nat) :
    (l.endFetch r course now due).inFlight = 0 := rfl

@[simp] theorem isRunning_stop (l : Loop) (now : Nat) : (l.stop now).isRunning = false := rfl

@[simp] theorem stats_start (l : Loop) (r : Refresher) (now : Nat) :
    (l.start r now).refresh.stats = l.refresh.stats := rfl

@[simp] theorem stats_stop (l : Loop) (now : Nat) :
    (l.stop now).refresh.stats = l.refresh.stats := rfl

variable {r : Refresher} {provider : Nat → Course} {now : Nat} {cancelled : Bool}

/-- Only a loop that has not returned does anything. -/
theorem isRunning_of_does {deed : Deed} {l l' : Loop}
    (does : l.Does r provider now cancelled deed l') :
    l.isRunning = true := by
  unfold isRunning
  cases does with
  | start created => rw [created]
  | stop waiting => rw [waiting]
  | beginFetch waiting => rw [waiting]
  | abandonFetch fetching => rw [fetching]
  | endFetch fetching => rw [fetching]

theorem exists_fetching {l : Loop} (busy : l.inFlight ≠ 0) :
    ∃ finish course due, l.phase = .fetching finish course due := by
  unfold inFlight at busy
  split at busy
  · next finish course due fetching => exact ⟨finish, course, due, fetching⟩
  · exact absurd rfl busy

/-- A loop that has returned has no fetch under way. -/
theorem inFlight_of_not_isRunning {l : Loop} (returned : l.isRunning = false) : l.inFlight = 0 := by
  unfold isRunning at returned
  unfold inFlight
  split at returned
  · next stopped => rw [stopped]
  · cases returned

/-- Whatever a loop does keeps its counters balanced: one that goes on has abandoned no fetch. -/
theorem Balanced.next {l l' : Loop} {done : List Deed} {deed : Deed} (balanced : l.Balanced done)
    (does : l.Does r provider now cancelled deed l') : l'.Balanced (done ++ [deed]) := by
  have unabandoned : done.count .abandonFetch = 0 := by
    rcases balanced.abandoned with never | ⟨_, stopped⟩
    · exact never
    · rw [isRunning_of_does does] at stopped
      cases stopped
  have begun := balanced.begun
  have ended := balanced.ended
  cases does with
  | start created =>
    have idle : l.inFlight = 0 := by rw [inFlight, created]
    exact ⟨begun, by simpa [idle] using ended, by simp [unabandoned], by simp⟩
  | stop waiting =>
    have idle : l.inFlight = 0 := by rw [inFlight, waiting]
    exact ⟨begun, by simpa [idle] using ended, by simp [unabandoned], by simp⟩
  | beginFetch waiting =>
    have idle : l.inFlight = 0 := by rw [inFlight, waiting]
    rw [idle] at ended
    refine ⟨?_, ?_, by simp [unabandoned], fun _ => ⟨l.refresh, rfl⟩⟩
    · exact congrArg (· + 1) begun
    · rw [inFlight_beginFetch]
      simpa [Loop.beginFetch, RefreshState.attempt] using ended
  | abandonFetch fetching =>
    have busy : l.inFlight = 1 := by rw [inFlight, fetching]
    rw [busy] at ended
    refine ⟨begun, ?_, by simp [unabandoned], by simp⟩
    simpa [unabandoned, RefreshState.logged] using ended
  | @endFetch finish due course fetching =>
    have busy : l.inFlight = 1 := by rw [inFlight, fetching]
    rw [busy] at ended
    have finished := RefreshState.complete_end r l.refresh course.result (l.epoch + now)
    have counted := finished.counted
    have kept (outcome : RefreshOutcome) :
        [Deed.endFetch outcome].count (.endFetch .preservedOnEmpty) =
          if outcome = .preservedOnEmpty then 1 else 0 := by
      simp [List.count_singleton]
    refine ⟨begun.trans finished.attempts.symm, ?_, by simp [unabandoned], by simp⟩
    rw [inFlight_endFetch, List.count_append, List.count_append, kept, unabandoned]
    simp only [Loop.endFetch, finished.attempts, List.count_singleton]
    simp only [beq_iff_eq, reduceCtorEq, if_false]
    omega

/-- A loop that has returned has counted every fetch, except for one that it abandoned. -/
theorem Balanced.counted {l : Loop} {done : List Deed} (balanced : l.Balanced done)
    (returned : l.isRunning = false) :
    l.refresh.stats.attempts = l.refresh.stats.installs + l.refresh.stats.failures +
      done.count (.endFetch .preservedOnEmpty) + if .abandonFetch ∈ done then 1 else 0 := by
  have idle : l.inFlight = 0 := inFlight_of_not_isRunning returned
  have ended := balanced.ended
  rw [idle] at ended
  rcases balanced.abandoned with never | ⟨once, -⟩
  · rw [if_neg (List.count_eq_zero.1 never)]
    omega
  · rw [if_pos (List.count_pos_iff.1 (by omega))]
    omega

end Loop

end Refresh

end TokenGate
