import TokenGate.Proofs.Fetch.Document
import TokenGate.Proofs.Key.Filter
import TokenGate.Proofs.Refresh.Latest
import TokenGate.Refresh.Cycle

/-! # What the cache shows after many cycles

Cycles run one after another from a fresh cache. Each finds a document with usable keys, one without
any, or nothing. What the cache shows then depends on the last document of a kind alone, and the
policy decides which kind counts. -/

namespace TokenGate

/-- A cycle: how the network reacts to its fetch, and the time at which that ends. -/
structure RefreshCycle where
  network : Fetch.Network
  time : SystemTime

namespace RefreshCycle

variable (f : Fetcher) (c : RefreshCycle)

/-- What the cycle's fetch yields. -/
def fetch : FetchResult := (Fetch.run f c.network c.time).2

/-- A document arrives that has usable keys, and this is its set. -/
def Finds (set : KeySet) : Prop :=
  ∃ body, Fetch.Brings f c.network body ∧ (KeySet.ofDocument body c.time).1 = .ok set

/-- A document arrives that has no usable key. -/
def FindsNone : Prop :=
  ∃ body n, Fetch.Brings f c.network body ∧
    (KeySet.ofDocument body c.time).1 = .error (.noUsableKeys n)

/-- The empty set of the time at which a document without usable keys is read. -/
def Empties (set : KeySet) : Prop := c.FindsNone f ∧ set = .empty c.time

/-- Every cycle finds a set, finds a document without usable keys, or fails. -/
theorem fetch_cases :
    (∃ set, c.Finds f set ∧ (c.fetch f).1 = .ok set) ∨
      (∃ n, c.FindsNone f ∧ (c.fetch f).1 = .error (.noUsableKeys n)) ∨
      ∃ reason, (∀ set, ¬ c.Finds f set) ∧ ¬ c.FindsNone f ∧
        (c.fetch f).1 = .error reason ∧ ∀ n, reason ≠ .noUsableKeys n := by
  by_cases arrives : ∃ body, Fetch.Brings f c.network body
  · obtain ⟨body, brings⟩ := arrives
    have fetched : (c.fetch f).1 = (KeySet.ofDocument body c.time).1 :=
      Fetch.run_of_brings brings c.time
    rw [fetched]
    rcases made : (KeySet.ofDocument body c.time).1 with reason | set
    · by_cases unusable : ∃ n, reason = .noUsableKeys n
      · obtain ⟨n, rfl⟩ := unusable
        exact Or.inr (Or.inl ⟨n, ⟨body, n, brings, made⟩, rfl⟩)
      · refine Or.inr (Or.inr ⟨reason, ?_, ?_, rfl, fun n same => unusable ⟨n, same⟩⟩)
        · rintro set ⟨body', brings', made'⟩
          obtain rfl := brings.unique brings'
          cases made.symm.trans made'
        · rintro ⟨body', n, brings', made'⟩
          obtain rfl := brings.unique brings'
          exact unusable ⟨n, Except.error.inj (made.symm.trans made')⟩
    · exact Or.inl ⟨set, ⟨body, brings, made⟩, rfl⟩
  · have without : ∀ body, ¬ Fetch.Brings f c.network body := fun body brings =>
      arrives ⟨body, brings⟩
    obtain ⟨reason, fetched, other⟩ := Fetch.run_of_not_brings without c.time
    refine Or.inr (Or.inr ⟨reason, ?_, ?_, fetched, other⟩)
    · rintro set ⟨body, brings, _⟩
      exact without body brings
    · rintro ⟨body, n, brings, _⟩
      exact without body brings

/-- A cycle finds one set at most. -/
theorem Finds.unique {f : Fetcher} {c : RefreshCycle} {set set' : KeySet} (left : c.Finds f set)
    (right : c.Finds f set') : set = set' := by
  obtain ⟨body, brings, made⟩ := left
  obtain ⟨body', brings', made'⟩ := right
  obtain rfl := brings.unique brings'
  exact Except.ok.inj (made.symm.trans made')

theorem Finds.not_findsNone {f : Fetcher} {c : RefreshCycle} {set : KeySet} (finds : c.Finds f set) :
    ¬ c.FindsNone f := by
  obtain ⟨body, brings, made⟩ := finds
  rintro ⟨body', n, brings', made'⟩
  obtain rfl := brings.unique brings'
  cases made.symm.trans made'

theorem Empties.unique {f : Fetcher} {c : RefreshCycle} {set set' : KeySet} (left : c.Empties f set)
    (right : c.Empties f set') : set = set' :=
  left.2.trans right.2.symm

/-- What a cycle finds has keys. -/
theorem Finds.keys_ne_nil {f : Fetcher} {c : RefreshCycle} {set : KeySet} (finds : c.Finds f set) :
    set.keys ≠ [] := by
  obtain ⟨body, _, made⟩ := finds
  exact KeySet.keys_ne_nil_of_ofDocument made

end RefreshCycle

/-- What a cycle does to a cache, and what it answers. -/
inductive RefreshStep (r : Refresher) (f : Fetcher) (cache : KeyCache) (c : RefreshCycle) :
    KeyCache → RefreshOutcome → Prop
  | found {set : KeySet} (finds : c.Finds f set) :
      RefreshStep r f cache c (cache.install set) (.installed (cache.generation + 1) set.size)
  | kept (unusable : c.FindsNone f) (policy : r.emptyPolicy = .preserveExisting)
      (held : cache.current.keys ≠ []) : RefreshStep r f cache c cache .preservedOnEmpty
  | emptied (unusable : c.FindsNone f)
      (gone : r.emptyPolicy = .preserveExisting → cache.current.keys = []) :
      RefreshStep r f cache c (cache.install (.empty c.time)) (.installed (cache.generation + 1) 0)
  | failed (without : ∀ set, ¬ c.Finds f set) (neither : ¬ c.FindsNone f) :
      RefreshStep r f cache c cache .failed

namespace RefreshState

variable (r : Refresher) (f : Fetcher)

private theorem emptied_of_held {s : RefreshState} (policy : r.emptyPolicy = .preserveExisting)
    (held : s.cache.current.keys ≠ []) (n : UInt64) (time : SystemTime) :
    (emptied r s n time).1.cache = s.cache ∧ (emptied r s n time).2 = .preservedOnEmpty := by
  simp [emptied, logged, KeySet.isEmpty, policy, held]

private theorem emptied_of_gone {s : RefreshState}
    (gone : r.emptyPolicy = .preserveExisting → s.cache.current.keys = []) (n : UInt64)
    (time : SystemTime) :
    (emptied r s n time).1.cache = s.cache.install (.empty time) ∧
      (emptied r s n time).2 = .installed (s.cache.generation + 1) 0 := by
  unfold emptied
  rw [if_neg]
  · exact ⟨rfl, rfl⟩
  · simpa [KeySet.isEmpty] using gone

/-- A cycle is one of the steps. -/
theorem refreshOnce_step (s : RefreshState) (c : RefreshCycle) :
    RefreshStep r f s.cache c (refreshOnce r s (c.fetch f) c.time).1.cache
      (refreshOnce r s (c.fetch f) c.time).2 := by
  unfold refreshOnce complete
  rcases c.fetch_cases f with ⟨set, finds, fetched⟩ | ⟨n, unusable, fetched⟩ |
    ⟨reason, without, neither, fetched, other⟩
  · rw [fetched]
    exact .found finds
  · rw [fetched]
    by_cases held : r.emptyPolicy = .preserveExisting ∧ s.cache.current.keys ≠ []
    · obtain ⟨same, answered⟩ := emptied_of_held r (s := s.attempt.logged (c.fetch f).2)
        held.1 held.2 n c.time
      simp only [same, answered]
      exact .kept unusable held.1 held.2
    · have gone : r.emptyPolicy = .preserveExisting → s.cache.current.keys = [] := fun policy =>
        by_contra fun keys => held ⟨policy, keys⟩
      obtain ⟨same, answered⟩ := emptied_of_gone r (s := s.attempt.logged (c.fetch f).2)
        gone n c.time
      simp only [same, answered]
      exact .emptied unusable gone
  · rw [fetched]
    cases reason with
    | noUsableKeys n => exact absurd rfl (other n)
    | _ => exact .failed without neither

/-- The state behind some cycles that begin with a fresh cache. -/
def history (cycles : List RefreshCycle) : RefreshState :=
  refreshAll r {} (cycles.map fun c => (c.fetch f, c.time))

theorem history_concat (cycles : List RefreshCycle) (c : RefreshCycle) :
    history r f (cycles ++ [c]) =
      (refreshOnce r (history r f cycles) (c.fetch f) c.time).1 := by
  simp [history, refreshAll]

end RefreshState

/-- What a policy asks of a cache after some cycles. -/
inductive Expected (f : Fetcher) (cycles : List RefreshCycle) : EmptySetPolicy → KeySet → Prop
  /-- The latest set of a document with usable keys stays. -/
  | held {set : KeySet} (latest : Latest (RefreshCycle.Finds f) cycles set) :
      Expected f cycles .preserveExisting set
  /-- Without one, the latest document without usable keys empties the set. -/
  | bare {set : KeySet} (never : Never (RefreshCycle.Finds f) cycles)
      (latest : Latest (RefreshCycle.Empties f) cycles set) :
      Expected f cycles .preserveExisting set
  /-- The latest document counts, whatever is in it. -/
  | latest {set : KeySet}
      (latest : Latest (fun c set => c.Finds f set ∨ c.Empties f set) cycles set) :
      Expected f cycles .replace set
  /-- Without any document the cache stays as it was made. -/
  | untouched {policy : EmptySetPolicy} (never : Never (RefreshCycle.Finds f) cycles)
      (bare : Never (RefreshCycle.Empties f) cycles) : Expected f cycles policy .uninitialized

namespace Expected

variable {r : Refresher} {f : Fetcher} {cycles : List RefreshCycle} {c : RefreshCycle}
variable {policy : EmptySetPolicy} {set : KeySet}

theorem nil : Expected f [] policy .uninitialized := .untouched Never.nil Never.nil

/-- A set that is found is what the cache is to show. -/
theorem concat_found (finds : c.Finds f set) : Expected f (cycles ++ [c]) policy set := by
  cases policy with
  | preserveExisting => exact .held (Latest.of_last finds)
  | replace => exact .latest (Latest.of_last (Or.inl finds))

/-- A fetch that fails changes nothing of what the cache is to show. -/
theorem concat_failed (without : ∀ set, ¬ c.Finds f set) (neither : ¬ c.FindsNone f)
    (expected : Expected f cycles policy set) : Expected f (cycles ++ [c]) policy set := by
  have full : ∀ set, ¬ c.Empties f set := fun _ empties => neither empties.1
  cases expected with
  | held latest => exact .held (latest.concat without)
  | bare never latest => exact .bare (never_concat_iff.2 ⟨never, without⟩) (latest.concat full)
  | latest latest =>
    exact .latest (latest.concat fun set either => either.elim (without set) (full set))
  | untouched never bare =>
    exact .untouched (never_concat_iff.2 ⟨never, without⟩) (never_concat_iff.2 ⟨bare, full⟩)

/-- Only a set that was found has keys. -/
theorem latest_of_keys (expected : Expected f cycles .preserveExisting set) (keys : set.keys ≠ []) :
    Latest (RefreshCycle.Finds f) cycles set := by
  cases expected with
  | held latest => exact latest
  | bare never latest =>
    obtain ⟨_, _, _, _, ⟨_, rfl⟩, _⟩ := latest
    exact absurd rfl keys
  | untouched => exact absurd rfl keys

/-- A document without usable keys leaves a set with keys where the policy is to keep it. -/
theorem concat_kept (unusable : c.FindsNone f) (keys : set.keys ≠ [])
    (expected : Expected f cycles .preserveExisting set) :
    Expected f (cycles ++ [c]) .preserveExisting set :=
  .held ((expected.latest_of_keys keys).concat fun _ finds => finds.not_findsNone unusable)

/-- A document without usable keys empties the cache otherwise. -/
theorem concat_emptied (unusable : c.FindsNone f)
    (gone : policy = .preserveExisting → set.keys = []) (expected : Expected f cycles policy set) :
    Expected f (cycles ++ [c]) policy (.empty c.time) := by
  have without : ∀ set, ¬ c.Finds f set := fun _ finds => finds.not_findsNone unusable
  have bare : c.Empties f (.empty c.time) := ⟨unusable, rfl⟩
  cases expected with
  | held latest =>
    obtain ⟨_, _, _, _, finds, _⟩ := latest
    exact absurd (gone rfl) finds.keys_ne_nil
  | bare never => exact .bare (never_concat_iff.2 ⟨never, without⟩) (Latest.of_last bare)
  | latest => exact .latest (Latest.of_last (Or.inr bare))
  | untouched never =>
    cases policy with
    | preserveExisting => exact .bare (never_concat_iff.2 ⟨never, without⟩) (Latest.of_last bare)
    | replace => exact .latest (Latest.of_last (Or.inr bare))

/-- A policy asks for one set only. -/
theorem unique {set' : KeySet} (left : Expected f cycles policy set)
    (right : Expected f cycles policy set') : set = set' := by
  cases left with
  | held latest =>
    cases right with
    | held latest' => exact latest.unique (fun _ _ _ finds => finds.unique) latest'
    | bare never _ => exact absurd never latest.not_never
    | untouched never _ => exact absurd never latest.not_never
  | bare never latest =>
    cases right with
    | held latest' => exact absurd never latest'.not_never
    | bare _ latest' => exact latest.unique (fun _ _ _ empties => empties.unique) latest'
    | untouched _ bare => exact absurd bare latest.not_never
  | latest latest =>
    cases right with
    | latest latest' =>
      refine latest.unique (fun c first second here there => ?_) latest'
      rcases here with finds | empties
      · rcases there with finds' | empties'
        · exact finds.unique finds'
        · exact absurd empties'.1 finds.not_findsNone
      · rcases there with finds' | empties'
        · exact absurd empties.1 finds'.not_findsNone
        · exact empties.unique empties'
    | untouched never bare =>
      obtain ⟨_, c, _, rfl, finds | empties, _⟩ := latest
      · exact absurd finds (never c (by simp) _)
      · exact absurd empties (bare c (by simp) _)
  | untouched never bare =>
    cases right with
    | held latest => exact absurd never latest.not_never
    | bare _ latest => exact absurd bare latest.not_never
    | latest latest =>
      obtain ⟨_, c, _, rfl, finds | empties, _⟩ := latest
      · exact absurd finds (never c (by simp) _)
      · exact absurd empties (bare c (by simp) _)
    | untouched => rfl

end Expected

/-- A cache shows a set when it holds it under its own generation. -/
def KeyCache.Shows (cache : KeyCache) (set : KeySet) : Prop :=
  cache.current = { set with generation := cache.generation }

namespace RefreshStep

variable {r : Refresher} {f : Fetcher} {cycles : List RefreshCycle} {c : RefreshCycle}
variable {cache next : KeyCache} {outcome : RefreshOutcome} {set : KeySet}

/-- A cycle takes a cache that shows what is expected to one that does. -/
theorem shows_expected (step : RefreshStep r f cache c next outcome)
    (expected : Expected f cycles r.emptyPolicy set) (shown : cache.Shows set) :
    ∃ set', Expected f (cycles ++ [c]) r.emptyPolicy set' ∧ next.Shows set' := by
  have keys : cache.current.keys = set.keys := by rw [show cache.current = _ from shown]
  cases step with
  | found finds => exact ⟨_, Expected.concat_found finds, rfl⟩
  | kept unusable policy held =>
    refine ⟨set, ?_, shown⟩
    rw [policy] at expected ⊢
    exact expected.concat_kept unusable (keys ▸ held)
  | emptied unusable gone => exact ⟨_, expected.concat_emptied unusable (keys ▸ gone), rfl⟩
  | failed without neither => exact ⟨set, expected.concat_failed without neither, shown⟩

theorem keys_ne_nil (step : RefreshStep r f cache c next outcome)
    (policy : r.emptyPolicy = .preserveExisting) (held : cache.current.keys ≠ []) :
    next.current.keys ≠ [] := by
  cases step with
  | found finds => exact finds.keys_ne_nil
  | kept => exact held
  | emptied _ gone => exact absurd (gone policy) held
  | failed => exact held

/-- A cycle fails just if no document arrives. -/
theorem failed_iff (step : RefreshStep r f cache c next outcome) :
    outcome = .failed ↔ (∀ set, ¬ c.Finds f set) ∧ ¬ c.FindsNone f := by
  cases step with
  | found finds => simpa using fun without => absurd finds (without _)
  | kept unusable => simp [unusable]
  | emptied unusable => simp [unusable]
  | failed without neither => simp [without, neither]

private theorem preservedOnEmpty_iff (step : RefreshStep r f cache c next outcome) :
    outcome = .preservedOnEmpty ↔
      c.FindsNone f ∧ r.emptyPolicy = .preserveExisting ∧ cache.current.keys ≠ [] := by
  cases step with
  | found finds => simp [finds.not_findsNone]
  | kept unusable policy held => simp [unusable, policy, held]
  | emptied unusable gone => simpa [unusable] using gone
  | failed without neither => simp [neither]

/-- A cycle that fails, or keeps the set in place, leaves the cache as it was. -/
theorem unchanged (step : RefreshStep r f cache c next outcome)
    (kept : outcome = .failed ∨ outcome = .preservedOnEmpty) : next = cache := by
  cases step with
  | kept => rfl
  | failed => rfl
  | found => simp at kept
  | emptied => simp at kept

private theorem installed_eq (step : RefreshStep r f cache c next outcome) (generation count : Nat)
    (installed : outcome = .installed generation count) :
    generation = cache.generation + 1 ∧ next.generation = generation ∧
      next.current.generation = generation ∧ next.current.size = count := by
  cases step with
  | found =>
    cases installed
    exact ⟨rfl, rfl, rfl, rfl⟩
  | emptied =>
    cases installed
    exact ⟨rfl, rfl, rfl, rfl⟩
  | kept => cases installed
  | failed => cases installed

end RefreshStep

/-- After every cycle the cache shows what it is to show. -/
theorem RefreshState.history_shows_expected (r : Refresher) (f : Fetcher)
    (cycles : List RefreshCycle) :
    ∃ set, Expected f cycles r.emptyPolicy set ∧ (history r f cycles).cache.Shows set := by
  induction cycles using List.reverseRecOn with
  | nil => exact ⟨.uninitialized, Expected.nil, rfl⟩
  | append_singleton cycles c ih =>
    obtain ⟨set, expected, shown⟩ := ih
    rw [history_concat]
    exact (refreshOnce_step r f _ c).shows_expected expected shown

/-- Under the policy to keep them, keys are never lost again. -/
theorem RefreshState.history_keys_ne_nil {r : Refresher} (policy : r.emptyPolicy = .preserveExisting)
    {f : Fetcher} {cycles : List RefreshCycle}
    (held : (history r f cycles).cache.current.keys ≠ []) (more : List RefreshCycle) :
    (history r f (cycles ++ more)).cache.current.keys ≠ [] := by
  induction more using List.reverseRecOn with
  | nil => rwa [List.append_nil]
  | append_singleton more c ih =>
    rw [← List.append_assoc, history_concat]
    exact (refreshOnce_step r f _ c).keys_ne_nil policy ih

/-- Without a document the cache stays as it was made. -/
theorem RefreshState.history_untouched (r : Refresher) {f : Fetcher} {cycles : List RefreshCycle}
    (never : Never (RefreshCycle.Finds f) cycles) (bare : Never (RefreshCycle.Empties f) cycles) :
    (history r f cycles).cache = .new := by
  induction cycles using List.reverseRecOn with
  | nil => rfl
  | append_singleton cycles c ih =>
    obtain ⟨never, without⟩ := never_concat_iff.1 never
    obtain ⟨bare, full⟩ := never_concat_iff.1 bare
    have step := refreshOnce_step r f (history r f cycles) c
    have failed := step.failed_iff.2 ⟨without, fun unusable => full _ ⟨unusable, rfl⟩⟩
    rw [history_concat, step.unchanged (Or.inl failed)]
    exact ih never bare

/-- After every cycle the cache shows what the policy asks for, a set with keys never gives way to
an empty one unless the policy is to replace it, and a cycle's outcome tells what became of the
cache. -/
theorem RefreshState.history_shows_latest (r : Refresher) (f : Fetcher)
    (cycles : List RefreshCycle) :
    (∃ set, Expected f cycles r.emptyPolicy set) ∧
    (∀ set, Expected f cycles r.emptyPolicy set → (history r f cycles).cache.Shows set) ∧
    (Never (RefreshCycle.Finds f) cycles → Never (RefreshCycle.Empties f) cycles →
      (history r f cycles).cache = .new) ∧
    (r.emptyPolicy = .preserveExisting → (history r f cycles).cache.current.keys ≠ [] →
      ∀ more, (history r f (cycles ++ more)).cache.current.keys ≠ []) ∧
    ∀ c, ∃ next outcome,
      refreshOnce r (history r f cycles) (c.fetch f) c.time = (next, outcome) ∧
      next = history r f (cycles ++ [c]) ∧
      (outcome = .failed ↔ (∀ set, ¬ c.Finds f set) ∧ ¬ c.FindsNone f) ∧
      (outcome = .preservedOnEmpty ↔ c.FindsNone f ∧ r.emptyPolicy = .preserveExisting ∧
        (history r f cycles).cache.current.keys ≠ []) ∧
      (outcome = .failed ∨ outcome = .preservedOnEmpty →
        next.cache = (history r f cycles).cache) ∧
      ∀ generation count, outcome = .installed generation count →
        generation = (history r f cycles).cache.generation + 1 ∧
        next.cache.generation = generation ∧ next.cache.current.generation = generation ∧
        next.cache.current.size = count := by
  obtain ⟨set, expected, shown⟩ := history_shows_expected r f cycles
  refine ⟨⟨set, expected⟩, ?_, history_untouched r, fun policy => history_keys_ne_nil policy, ?_⟩
  · intro set' expected'
    exact expected.unique expected' ▸ shown
  · intro c
    have step := refreshOnce_step r f (history r f cycles) c
    have grown := history_concat r f cycles c
    rcases refreshed : refreshOnce r (history r f cycles) (c.fetch f) c.time with ⟨next, outcome⟩
    rw [refreshed] at step grown
    exact ⟨next, outcome, rfl, grown.symm, step.failed_iff, step.preservedOnEmpty_iff,
      step.unchanged, step.installed_eq⟩

end TokenGate
