import TokenGate.Proofs.Refresh.Accounting

/-! # What the counters of a refresh say

Cycles run one after another from a fresh cache. Each is counted once, under the label of its
result, whatever the policy makes of it; an empty set that is installed is no success. The gauge
follows the set in place. -/

namespace TokenGate

namespace RefreshState

/-- The label under which a fetch is counted. -/
def status (fetch : FetchResult) : String :=
  match fetch.1 with
  | .ok _ => "success"
  | .error reason => reason.kind

/-- The labels that there are. -/
def statuses : Finset String :=
  {"success", "invalid_endpoint", "timeout", "transport", "http_status", "body_too_large",
    "invalid_document", "no_usable_keys"}

def isBare (fetch : FetchResult) : Bool :=
  match fetch.1 with
  | .error (.noUsableKeys _) => true
  | _ => false

def isFailure (fetch : FetchResult) : Bool :=
  match fetch.1 with
  | .ok _ | .error (.noUsableKeys _) => false
  | .error _ => true

/-- How cycles end that run one after another. -/
def outcomes (r : Refresher) : RefreshState → List (FetchResult × SystemTime) → List RefreshOutcome
  | _, [] => []
  | s, fetch :: rest =>
    (refreshOnce r s fetch.1 fetch.2).2 :: outcomes r (refreshOnce r s fetch.1 fetch.2).1 rest

/-- What the end of a fetch changes in the metrics. -/
def endEvents (fetch : FetchResult) (outcome : RefreshOutcome) : List MetricEvent :=
  .count (fetchCounter (status fetch)) ::
    match outcome with
    | .installed _ keyCount => [.gauge sizeGauge keyCount]
    | _ => []

/-- Counters that account for cycles, each with the fetch it made and the way it ended. -/
structure Accounts (fetches : List (FetchResult × SystemTime)) (done : List RefreshOutcome)
    (s : RefreshState) : Prop where
  attempts : s.stats.attempts = fetches.length
  ended : s.stats.attempts =
    s.stats.installs + s.stats.failures + done.count .preservedOnEmpty
  generation : s.stats.installs = s.cache.generation
  emptyFetches : s.stats.emptyFetches = fetches.countP fun fetch => isBare fetch.1
  failures : s.stats.failures = fetches.countP fun fetch => isFailure fetch.1
  labelled : ∀ label, s.metrics.value (fetchCounter label) =
    (fetches.map fun fetch => status fetch.1).count label
  /-- There is no gauge before anything is installed. -/
  gauge : s.metrics.value? sizeGauge =
    if s.stats.installs = 0 then none else some s.cache.current.size

section

variable {r : Refresher} {s s' : RefreshState} {fetch : FetchResult} {time : SystemTime}
variable {outcome : RefreshOutcome}

theorem outcomes_concat (fetches : List (FetchResult × SystemTime)) :
    outcomes r s (fetches ++ [(fetch, time)]) =
      outcomes r s fetches ++ [(refreshOnce r (refreshAll r s fetches) fetch time).2] := by
  induction fetches generalizing s with
  | nil => rfl
  | cons first rest ih =>
    rw [List.cons_append, outcomes, ih]
    rfl

private theorem status_mem (fetch : FetchResult) : status fetch ∈ statuses := by
  unfold status
  split
  · decide
  · next reason _ => cases reason <;> simp [FetchError.kind, statuses]

theorem fetchCounter_inj {label other : String} :
    fetchCounter label = fetchCounter other ↔ label = other := by
  simp [fetchCounter]

theorem sizeGauge_ne_fetchCounter (label : String) : sizeGauge ≠ fetchCounter label := by
  simp [sizeGauge, fetchCounter]

/-- A set that comes from a fetch has keys, so its install counts as a success. -/
theorem metrics_complete (r : Refresher) (s : RefreshState) (fetch : FetchResult)
    (time : SystemTime) (usable : ∀ set, fetch.1 = .ok set → set.keys ≠ []) :
    (complete r s fetch time).1.metrics =
      s.metrics.applyAll (endEvents fetch (complete r s fetch time).2) := by
  unfold complete
  split
  · next set fetched =>
    have full : set.isEmpty = false := List.isEmpty_eq_false_iff.2 (usable set fetched)
    simp [installed, endEvents, status, fetched, full, logged]
  · next n fetched =>
    unfold emptied
    dsimp only
    split_ifs with held
    · simp [endEvents, status, fetched, FetchError.kind, logged, Metrics.applyAll]
    · simp [installed, endEvents, status, fetched, FetchError.kind, logged, Metrics.applyAll,
        KeySet.isEmpty, KeySet.empty, KeySet.size]
  · next reason _ fetched =>
    simp [failed, endEvents, status, fetched, logged, Metrics.applyAll]

private theorem value_endEvents (m : Metrics) (fetch : FetchResult) (outcome : RefreshOutcome)
    (label : String) :
    (m.applyAll (endEvents fetch outcome)).value (fetchCounter label) =
      m.value (fetchCounter label) + if status fetch = label then 1 else 0 := by
  have counted := m.value_count (fetchCounter (status fetch)) (fetchCounter label)
  simp only [fetchCounter_inj] at counted
  rw [← counted]
  cases outcome with
  | installed generation keyCount =>
    have gauged : m.applyAll (endEvents fetch (.installed generation keyCount)) =
      (m.apply (.count (fetchCounter (status fetch)))).set sizeGauge keyCount := rfl
    rw [gauged, Metrics.value_set, if_neg (sizeGauge_ne_fetchCounter label)]
  | preservedOnEmpty => rfl
  | failed => rfl

private theorem value?_endEvents (m : Metrics) (fetch : FetchResult) (outcome : RefreshOutcome) :
    (m.applyAll (endEvents fetch outcome)).value? sizeGauge =
      match outcome with
      | .installed _ keyCount => some keyCount
      | _ => m.value? sizeGauge := by
  have apart (n : Nat) :
      (m.set (fetchCounter (status fetch)) n).value? sizeGauge = m.value? sizeGauge := by
    rw [Metrics.value?_set, if_neg (sizeGauge_ne_fetchCounter _).symm]
  cases outcome with
  | installed generation keyCount =>
    simp only [endEvents, Metrics.applyAll, List.foldl_cons, List.foldl_nil, Metrics.apply]
    rw [Metrics.value?_set, if_pos rfl]
  | preservedOnEmpty => exact apart _
  | failed => exact apart _

end

end RefreshState

namespace RefreshEnd

variable {r : Refresher} {s s' : RefreshState} {fetch : FetchResult} {time : SystemTime}
variable {outcome : RefreshOutcome}

/-- Every install gives the cache its next generation. -/
theorem installs_generation (ended : RefreshEnd r s fetch time s' outcome) :
    s'.stats.installs + s.cache.generation = s.stats.installs + s'.cache.generation := by
  cases ended with
  | installed _ cache stats => rw [stats, cache, KeyCache.generation_install]; dsimp only; omega
  | emptied _ _ cache stats => rw [stats, cache, KeyCache.generation_install]; dsimp only; omega
  | kept _ _ _ cache stats => rw [stats, cache]
  | failed _ _ cache stats => rw [stats, cache]

/-- Documents without usable keys are counted. -/
theorem emptyFetches (ended : RefreshEnd r s fetch time s' outcome) :
    s'.stats.emptyFetches =
      s.stats.emptyFetches + if RefreshState.isBare fetch = true then 1 else 0 := by
  cases ended with
  | installed fetched _ stats => simp [stats, RefreshState.isBare, fetched]
  | emptied fetched _ _ stats => simp [stats, RefreshState.isBare, fetched]
  | kept fetched _ _ _ stats => simp [stats, RefreshState.isBare, fetched]
  | @failed reason fetched other _ stats =>
    cases reason with
    | noUsableKeys n => exact absurd rfl (other n)
    | _ => simp [stats, RefreshState.isBare, fetched]

/-- Fetches without a document are counted. -/
theorem failures (ended : RefreshEnd r s fetch time s' outcome) :
    s'.stats.failures =
      s.stats.failures + if RefreshState.isFailure fetch = true then 1 else 0 := by
  cases ended with
  | installed fetched _ stats => simp [stats, RefreshState.isFailure, fetched]
  | emptied fetched _ _ stats => simp [stats, RefreshState.isFailure, fetched]
  | kept fetched _ _ _ stats => simp [stats, RefreshState.isFailure, fetched]
  | @failed reason fetched other _ stats =>
    cases reason with
    | noUsableKeys n => exact absurd rfl (other n)
    | _ => simp [stats, RefreshState.isFailure, fetched]

/-- The gauge shows the size of the set in place, as soon as there is one. -/
theorem gauge (ended : RefreshEnd r s fetch time s' outcome)
    (metrics : s'.metrics = s.metrics.applyAll (RefreshState.endEvents fetch outcome))
    (shown : s.metrics.value? RefreshState.sizeGauge =
      if s.stats.installs = 0 then none else some s.cache.current.size) :
    s'.metrics.value? RefreshState.sizeGauge =
      if s'.stats.installs = 0 then none else some s'.cache.current.size := by
  rw [metrics, RefreshState.value?_endEvents]
  cases ended with
  | installed _ cache stats => simp [stats, cache, KeyCache.current_install, KeySet.size]
  | emptied _ _ cache stats =>
    simp [stats, cache, KeyCache.current_install, KeySet.size, KeySet.empty]
  | kept _ _ _ cache stats => simpa [stats, cache] using shown
  | failed _ _ cache stats => simpa [stats, cache] using shown

end RefreshEnd

namespace RefreshState

variable {r : Refresher} {s s' : RefreshState} {fetch : FetchResult} {time : SystemTime}
variable {fetches : List (FetchResult × SystemTime)} {done : List RefreshOutcome}
variable {outcome : RefreshOutcome}

/-- The end of a cycle keeps the accounts. -/
theorem Accounts.next (accounts : Accounts fetches done s)
    (ended : RefreshEnd r s.attempt fetch time s' outcome)
    (metrics : s'.metrics = s.attempt.metrics.applyAll (endEvents fetch outcome)) :
    Accounts (fetches ++ [(fetch, time)]) (done ++ [outcome]) s' := by
  have attempted : s'.stats.attempts = s.stats.attempts + 1 := ended.attempts
  have counted := ended.counted
  have generation := ended.installs_generation
  have emptyFetches := ended.emptyFetches
  have failures := ended.failures
  simp only [attempt] at counted generation emptyFetches failures
  refine ⟨?_, ?_, ?_, ?_, ?_, fun label => ?_, ?_⟩
  · rw [attempted, accounts.attempts, List.length_append, List.length_singleton]
  · have before := accounts.ended
    rw [attempted, List.count_append, List.count_singleton]
    simp only [beq_iff_eq]
    omega
  · have before := accounts.generation
    omega
  · rw [emptyFetches, accounts.emptyFetches, List.countP_append, List.countP_singleton]
  · rw [failures, accounts.failures, List.countP_append, List.countP_singleton]
  · have before : s.attempt.metrics.value (fetchCounter label) = _ := accounts.labelled label
    rw [metrics, value_endEvents, before, List.map_append, List.count_append, List.map_singleton,
      List.count_singleton]
    simp only [beq_iff_eq]
  · exact ended.gauge metrics accounts.gauge

/-- The accounts are right behind any cycles. -/
theorem accounts_refreshAll (r : Refresher)
    (usable : ∀ fetch ∈ fetches, ∀ set, fetch.1.1 = .ok set → set.keys ≠ []) :
    Accounts fetches (outcomes r {} fetches) (refreshAll r {} fetches) := by
  induction fetches using List.reverseRecOn with
  | nil => exact ⟨rfl, rfl, rfl, rfl, rfl, fun _ => rfl, rfl⟩
  | append_singleton fetches fetch ih =>
    obtain ⟨result, time⟩ := fetch
    have before := ih fun fetch member => usable fetch (by simp [member])
    have found : ∀ set, result.1 = .ok set → set.keys ≠ [] := usable (result, time) (by simp)
    rw [refreshAll_concat, outcomes_concat]
    exact before.next (complete_end r _ result time) (metrics_complete r _ result time found)

/-- Whatever cycles have run since the cache was fresh, every one of them is counted: as an install,
a failure or a set that was kept, and under the label of its result. Installs are the generations of
the cache, and the gauge shows the size of the set in place. -/
theorem refreshAll_accounts (r : Refresher) (fetches : List (FetchResult × SystemTime))
    (usable : ∀ fetch ∈ fetches, ∀ set, fetch.1.1 = .ok set → set.keys ≠ []) :
    let s := refreshAll r {} fetches
    Accounts fetches (outcomes r {} fetches) s ∧
      ∑ label ∈ statuses, s.metrics.value (fetchCounter label) = s.stats.attempts := by
  have accounts := accounts_refreshAll r usable
  refine ⟨accounts, ?_⟩
  have all : ∀ label ∈ (fetches.map fun fetch => status fetch.1 : Multiset String),
      label ∈ statuses := by
    intro label member
    obtain ⟨fetch, -, rfl⟩ := List.mem_map.1 (Multiset.mem_coe.1 member)
    exact status_mem fetch.1
  simp only [accounts.labelled, accounts.attempts, ← Multiset.coe_count]
  rw [Multiset.sum_count_eq_card all, Multiset.coe_card, List.length_map]

/-- A document without usable keys, one with a key, another without, and no document. -/
theorem refreshAll_accounts_every_result :
    let key : SigningKey := ⟨"k1", .es256, .ec, .ec [] []⟩
    let bare : FetchResult := (.error (.noUsableKeys 1), [])
    let fetches : List (FetchResult × SystemTime) :=
      [(bare, 0), ((.ok ⟨[key], some 1, 0, by decide⟩, []), 1), (bare, 2),
        ((.error .transport, []), 3)]
    let r : Refresher := { endpoint := "scripted" }
    (∀ fetch ∈ fetches, ∀ set, fetch.1.1 = .ok set → set.keys ≠ []) ∧
      Accounts fetches [.installed 1 0, .installed 2 1, .preservedOnEmpty, .failed]
        (refreshAll r {} fetches) ∧
      ∑ label ∈ statuses, (refreshAll r {} fetches).metrics.value (fetchCounter label) = 4 := by
  intro key bare fetches r
  have usable : ∀ fetch ∈ fetches, ∀ set, fetch.1.1 = .ok set → set.keys ≠ [] := by
    simp [fetches, bare]
  exact ⟨usable, refreshAll_accounts r fetches usable⟩

end RefreshState

end TokenGate
