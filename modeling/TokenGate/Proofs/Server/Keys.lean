import TokenGate.Proofs.Key.Entry
import TokenGate.Proofs.Refresh.Accounting
import TokenGate.Proofs.Refresh.History
import TokenGate.Proofs.Server.Startup

/-! # Keys at the start of a server

A server that requires keys starts behind the first install. What is installed then is what the
fetches so far have found, and a fetch may find a document without any usable key: the empty set is
installed in a cache that has none, and the server starts without keys after all. -/

namespace TokenGate

namespace RefreshCycle

variable {f : Fetcher} {c : RefreshCycle}

theorem finds_iff {set : KeySet} : c.Finds f set ↔ (c.fetch f).1 = .ok set := by
  rcases c.fetch_cases f with ⟨set', finds, fetched⟩ | ⟨n, unusable, fetched⟩ |
    ⟨reason, without, -, fetched, -⟩
  · rw [fetched, Except.ok.injEq]
    exact ⟨finds.unique, fun same => same ▸ finds⟩
  · simp [fetched, show ¬ c.Finds f set from fun finds => finds.not_findsNone unusable]
  · simp [fetched, without set]

private theorem findsNone_iff : c.FindsNone f ↔ ∃ n, (c.fetch f).1 = .error (.noUsableKeys n) := by
  rcases c.fetch_cases f with ⟨set, finds, fetched⟩ | ⟨n, unusable, fetched⟩ |
    ⟨reason, -, neither, fetched, other⟩
  · simp [fetched, finds.not_findsNone]
  · simp [fetched, unusable]
  · simp [fetched, neither, other]

end RefreshCycle

namespace RefreshEnd

variable {r : Refresher} {s s' : RefreshState} {fetch : FetchResult} {time : SystemTime}
variable {outcome : RefreshOutcome}

/-- Where sets with keys are kept, there are keys as soon as a fetch has found some. -/
theorem keys_ne_nil_iff (policy : r.emptyPolicy = .preserveExisting)
    (usable : ∀ set, fetch.1 = .ok set → set.keys ≠ [])
    (ended : RefreshEnd r s fetch time s' outcome) :
    s'.cache.current.keys ≠ [] ↔ s.cache.current.keys ≠ [] ∨ ∃ set, fetch.1 = .ok set := by
  cases ended with
  | @installed set fetched cache =>
    rw [cache, KeyCache.current_install]
    exact ⟨fun _ => Or.inr ⟨set, fetched⟩, fun _ => usable set fetched⟩
  | emptied fetched gone cache =>
    rw [cache, KeyCache.current_install]
    simp [fetched, gone policy, KeySet.empty]
  | kept _ _ held cache => simp [cache, held]
  | failed fetched _ cache => simp [cache, fetched]

end RefreshEnd

namespace Refresh

/-- The fetch that ends joins those that have ended. -/
theorem Loop.exists_hasEnded_endFetch {r : Refresher} {l : Loop} {course : Course}
    {finish due now last : Nat} (fetching : l.phase = .fetching finish course due)
    (calls : l.calls = last + 1) {p : Nat → Prop} :
    (∃ n, (l.endFetch r course now due).HasEnded n ∧ p n) ↔
      (∃ n, l.HasEnded n ∧ p n) ∨ p last := by
  have ended (n : Nat) :
      (l.endFetch r course now due).HasEnded n ↔ l.HasEnded n ∨ n = last := by
    simp only [HasEnded, inFlight, Loop.endFetch, fetching, calls]
    omega
  simp only [ended, or_and_right, exists_or, exists_eq_left]

/-- How the network reacts to the fetches of a server, how long each takes, and when what arrives is
read. -/
structure Traffic where
  network : Nat → Fetch.Network
  span : Nat → Nat
  time : Nat → SystemTime

namespace Traffic

def cycle (w : Traffic) (n : Nat) : RefreshCycle := ⟨w.network n, w.time n⟩

def provider (w : Traffic) (f : Fetcher) (n : Nat) : Course := ⟨w.span n, (w.cycle n).fetch f⟩

/-- The same document at once whenever one is asked for. -/
def always (body : String) : Traffic where
  network _ _ _ := .answered { status := 200, chunks := [body.toUTF8.toList] }
  span _ := 0
  time _ := 0

/-- A loop's cache has keys, or anything, just if a fetch that has ended found them. -/
structure Reflects (w : Traffic) (f : Fetcher) (l : Loop) : Prop where
  course : ∀ finish course due, l.phase = .fetching finish course due →
    ∃ n, l.calls = n + 1 ∧ course.result = (w.cycle n).fetch f
  keys : l.refresh.cache.current.keys ≠ [] ↔ ∃ n, l.HasEnded n ∧ ∃ set, (w.cycle n).Finds f set
  installed : l.refresh.cache.isInitialized = true ↔
    ∃ n, l.HasEnded n ∧ ((∃ set, (w.cycle n).Finds f set) ∨ (w.cycle n).FindsNone f)

variable {w : Traffic} {f : Fetcher} {r : Refresher} {now : Nat} {l l' : Loop} {deed : Deed}

private theorem Reflects.fresh : w.Reflects f {} where
  course _ _ _ phase := by cases phase
  keys := by simp [Loop.HasEnded, KeyCache.new, KeySet.uninitialized]
  installed := by simp [Loop.HasEnded, KeyCache.new, KeyCache.isInitialized]

private theorem Reflects.congr (reflects : w.Reflects f l)
    (cache : l'.refresh.cache = l.refresh.cache) (ended : ∀ n, l'.HasEnded n ↔ l.HasEnded n)
    (course : ∀ finish course due, l'.phase = .fetching finish course due →
      ∃ n, l'.calls = n + 1 ∧ course.result = (w.cycle n).fetch f) : w.Reflects f l' where
  course := course
  keys := by simpa only [cache, ended] using reflects.keys
  installed := by simpa only [cache, ended] using reflects.installed

private theorem Reflects.isInitialized_of_keys (reflects : w.Reflects f l)
    (held : l.refresh.cache.current.keys ≠ []) : l.refresh.cache.isInitialized = true := by
  obtain ⟨n, ended, finds⟩ := reflects.keys.1 held
  exact reflects.installed.2 ⟨n, ended, Or.inl finds⟩

/-- A loop that keeps a set with keys reflects the fetch that ends. -/
theorem Reflects.next (policy : r.emptyPolicy = .preserveExisting) (reflects : w.Reflects f l)
    (does : l.Does r (w.provider f) now false deed l') : w.Reflects f l' := by
  cases does with
  | start created =>
    refine reflects.congr rfl (fun n => ?_) (fun _ _ _ phase => by cases phase)
    simp [Loop.HasEnded, Loop.inFlight, created, Loop.start]
  | stop _ fired => cases fired
  | beginFetch waiting =>
    refine reflects.congr rfl (fun n => ?_) (fun _ _ _ phase => ?_)
    · simp [Loop.HasEnded, Loop.inFlight, waiting, Loop.beginFetch]
    · cases phase
      exact ⟨l.calls, rfl, rfl⟩
  | abandonFetch _ fired => cases fired
  | @endFetch finish due course fetching =>
    obtain ⟨last, calls, fetched⟩ := reflects.course _ _ _ fetching
    have finished := RefreshState.complete_end r l.refresh course.result (l.epoch + now)
    have usable (set : KeySet) (found : course.result.1 = .ok set) : set.keys ≠ [] :=
      (RefreshCycle.finds_iff.2 (fetched ▸ found)).keys_ne_nil
    refine ⟨fun _ _ _ phase => (by cases phase), ?_, ?_⟩
    · rw [Loop.exists_hasEnded_endFetch fetching calls, ← reflects.keys]
      simp only [RefreshCycle.finds_iff, ← fetched]
      exact finished.keys_ne_nil_iff policy usable
    · rw [Loop.exists_hasEnded_endFetch fetching calls, ← reflects.installed]
      simp only [RefreshCycle.finds_iff, RefreshCycle.findsNone_iff, ← fetched]
      exact finished.isInitialized_iff reflects.isInitialized_of_keys

end Traffic

namespace Timeline

/-- What everything that the loop does preserves, the wait for the first install preserves. -/
theorem waitInstalled_preserves {r : Refresher} {provider : Nat → Course} {t : Timeline}
    {motive : Loop → Prop}
    (step : ∀ now l deed l', motive l → l.Does r provider now t.cancelled deed l' → motive l')
    (untimed : ∀ l moment, motive l → motive { l with polled := moment }) (span : Nat)
    (holds : motive t.loop) : motive (t.waitInstalled r provider span).loop := by
  unfold waitInstalled
  split
  · exact holds
  · unfold pass react
    split
    · next fired =>
      rw [fired] at step ⊢
      exact Loop.runWhile_preserves step untimed _ _ (Loop.poll_preserves (step _) untimed holds)
    · exact Loop.runWhile_preserves step untimed _ _ holds

end Timeline

end Refresh

namespace Server

open Refresh

/-- A launch that requires keys. -/
def requiring : Launch where
  issuer := some "https://issuer.example.com/"
  audience := "https://api.acme.dev"
  jwksUri := some "http://127.0.0.1:9000/jwks"
  requireKeys := true

section

variable {l : Launch} {server : Server}
variable (hasClient : Bool) (canListen : SocketAddress → Bool) (w : Traffic)

/-- A server that requires keys starts behind the first document that comes, and it has keys just if
some document did have any. -/
theorem start_with_keys_iff (required : l.requireKeys = true)
    (started : (start ⟨hasClient, w.provider, canListen⟩ l).result = .ok server) :
    ∃ f, fetcher ⟨hasClient, w.provider, canListen⟩ l.settings = .ok f ∧
      server.refresh.cache.isInitialized = true ∧
      (∃ n, server.refresh.timeline.loop.HasEnded n ∧
        ((∃ set, (w.cycle n).Finds f set) ∨ (w.cycle n).FindsNone f)) ∧
      (server.refresh.cache.current.keys ≠ [] ↔
        ∃ n, server.refresh.timeline.loop.HasEnded n ∧ ∃ set, (w.cycle n).Finds f set) := by
  obtain ⟨f, built, waited, initialized⟩ := start_eq_ok started
  have reflects : w.Reflects f server.refresh.timeline.loop := by
    rw [waited]
    refine Timeline.waitInstalled_preserves (motive := w.Reflects f) ?_ ?_ _ Traffic.Reflects.fresh
    · exact fun _ _ _ _ reflects does => reflects.next rfl does
    · exact fun _ _ reflects => ⟨reflects.course, reflects.keys, reflects.installed⟩
  exact ⟨f, built, initialized required, reflects.installed.1 (initialized required), reflects.keys⟩

end

/-- One entry with a key is fetched at once. -/
theorem start_with_keys_iff_one_key :
    let w := Traffic.always ("\x7b\"keys\":[\x7b\"kty\":\"EC\",\"use\":\"sig\",\"kid\":\"k1\"," ++
      "\"crv\":\"P-256\",\"x\":\"u4tr5OI79okto4moJWxpbx229D23elMie6EPyASE2Cs\"," ++
      "\"y\":\"5p1TJRAiN_X6uqUNF4mEa02tr_D7YzdrBph2xqjaZVo\"\x7d]\x7d")
    ∃ server f, (start ⟨true, w.provider, fun _ => true⟩ requiring).result = .ok server ∧
      ∃ n, server.refresh.timeline.loop.HasEnded n ∧ ∃ set, (w.cycle n).Finds f set := by
  intro w
  have evaluated : ((start ⟨true, w.provider, fun _ => true⟩ requiring).result.toOption.any
      fun server => !server.refresh.cache.current.keys.isEmpty) = true := by decide +kernel
  obtain ⟨server, started, held⟩ := exists_ok_of_any evaluated
  obtain ⟨f, -, -, -, keys⟩ := start_with_keys_iff true (fun _ => true) w rfl started
  exact ⟨server, f, started, keys.1 (by simpa using held)⟩

/-- A document without keys is enough for a server that requires them. -/
theorem start_without_keys :
    let w := Traffic.always "\x7b\"keys\":[]\x7d"
    requiring.requireKeys = true ∧
      ∃ server, (start ⟨true, w.provider, fun _ => true⟩ requiring).result = .ok server ∧
        server.refresh.cache.current.keys = [] := by
  intro w
  have evaluated : ((start ⟨true, w.provider, fun _ => true⟩ requiring).result.toOption.any
      fun server => server.refresh.cache.current.keys.isEmpty) = true := by decide +kernel
  obtain ⟨server, started, keyless⟩ := exists_ok_of_any evaluated
  exact ⟨rfl, server, started, List.isEmpty_iff.1 keyless⟩

end Server

end TokenGate
