import TokenGate.Proofs.Key.Filter
import TokenGate.Proofs.Key.Shared
import TokenGate.Proofs.Refresh.Cancellation
import TokenGate.Proofs.Server.Decision
import TokenGate.Proofs.Server.Keys

/-! # Readiness

The service says that it is ready when its key set has a fetch time, the cache counts installs. The
two could tell different stories, since whoever holds the sentinel may install it like any other
set. The refresh loop never does: it installs sets of documents and empty sets, which all have a
fetch time. So over a loop's cache both notions agree at every moment, and what is ready stays
ready. The answer is told by one snapshot of the cache and by nothing that the request carries. -/

namespace TokenGate

/-! ## The sets that there are -/

namespace KeySet

/-- A set that can be made: by a constructor, from a document, or as a copy under another
generation. -/
inductive Made : KeySet → Prop
  | uninitialized : Made .uninitialized
  | empty (time : SystemTime) : Made (.empty time)
  | ofKeys (keys : List SigningKey) (time : SystemTime) : Made (ofKeys keys time).1
  | ofDocument {body : List UInt8} {time : SystemTime} {set : KeySet}
      (read : (ofDocument body time).1 = .ok set) : Made set
  | copy {set : KeySet} (made : Made set) (generation : Nat) :
      Made { set with generation := generation }

/-- The sentinel, under any generation. -/
def IsSentinel (set : KeySet) : Prop :=
  ∃ generation, set = { KeySet.uninitialized with generation := generation }

/-- Every set that a document makes is a fetched one. -/
theorem fetched_of_ofDocument {body : List UInt8} {time : SystemTime} {set : KeySet}
    (read : (ofDocument body time).1 = .ok set) : set.fetched = true := by
  cases decodes : documentEntries? body with
  | none => simp [ofDocument, decodes] at read
  | some entries =>
    rw [ofDocument_of_entries decodes] at read
    obtain ⟨-, rfl⟩ := (ofEntries_eq_ok_iff entries time set).1 read
    rfl

/-- Of the sets that can be made, only the sentinel has no fetch time. -/
theorem Made.fetched_iff {set : KeySet} (made : set.Made) :
    set.fetched = true ↔ ¬ set.IsSentinel := by
  constructor
  · rintro fetched ⟨generation, rfl⟩
    cases fetched
  · intro other
    induction made with
    | uninitialized => exact absurd ⟨0, rfl⟩ other
    | empty => rfl
    | ofKeys => rfl
    | ofDocument read => exact fetched_of_ofDocument read
    | @copy set made generation ih =>
      refine ih fun sentinel => other ?_
      obtain ⟨before, rfl⟩ := sentinel
      exact ⟨generation, rfl⟩

end KeySet

namespace KeyCache

private theorem isInitialized_behind_iff (sets : List KeySet) :
    (behind sets).isInitialized = true ↔ sets ≠ [] := by
  rw [isInitialized, generation_behind, decide_eq_true_iff, List.length_pos_iff]

/-- The fetch time that the cache shows is that of the last set. -/
theorem fetched_behind_iff {sets : List KeySet} (made : ∀ set ∈ sets, set.Made) :
    (behind sets).current.fetched = true ↔
      ∃ last, sets.getLast? = some last ∧ ¬ last.IsSentinel := by
  rcases current_behind sets with ⟨rfl, sentinel⟩ | ⟨before, last, rfl, shows⟩
  · rw [sentinel]
    simp [KeySet.fetched, KeySet.uninitialized]
  · have fetched : (behind (before ++ [last])).current.fetched = last.fetched := by
      rw [shows]
      rfl
    rw [fetched, (made last (by simp)).fetched_iff]
    simp

end KeyCache

/-- Whoever else takes turns, a fetched set that a reader is shown is that of one install. -/
theorem SharedCache.Serial.exists_tags {c : SharedCache} {installed stored : List KeySet}
    (serial : c.Serial installed stored) {seen : List CacheSight} (member : seen ∈ c.readers)
    {shown : KeySet} (listed : .set shown ∈ seen) (fetched : shown.fetched = true) :
    ∃ generation set, c.Tags generation set ∧ (∀ set', c.Tags generation set' → set' = set) ∧
      shown = { set with generation := generation } := by
  rcases (serial.seen seen member).whole shown listed with rfl | ⟨generation, set, place, tagged⟩
  · cases fetched
  · refine ⟨generation, set, (serial.tags_iff generation set).2 place, fun set' tags => ?_, tagged⟩
    exact numbered_unique ((serial.tags_iff generation set').1 tags) place

/-! ## What a loop's cache shows -/

/-- The cache shows a fetched set just if something has been installed. -/
def KeyCache.Agrees (cache : KeyCache) : Prop := cache.current.fetched = cache.isInitialized

private theorem KeyCache.agrees_install (cache : KeyCache) {set : KeySet}
    (fetched : set.fetched = true) : (cache.install set).Agrees := by
  rw [Agrees, isInitialized_install]
  exact fetched

namespace RefreshEnd

variable {r : Refresher} {s s' : RefreshState} {fetch : FetchResult} {time : SystemTime}
variable {outcome : RefreshOutcome}

/-- A cycle keeps the agreement. -/
theorem agrees (fetched : ∀ set, fetch.1 = .ok set → set.fetched = true) (before : s.cache.Agrees)
    (ended : RefreshEnd r s fetch time s' outcome) : s'.cache.Agrees := by
  cases ended with
  | installed found cache =>
    rw [cache]
    exact KeyCache.agrees_install _ (fetched _ found)
  | emptied _ _ cache =>
    rw [cache]
    exact KeyCache.agrees_install _ rfl
  | kept _ _ _ cache => rwa [cache]
  | failed _ _ cache => rwa [cache]

theorem isInitialized (ended : RefreshEnd r s fetch time s' outcome)
    (before : s.cache.isInitialized = true) : s'.cache.isInitialized = true := by
  cases ended with
  | installed _ cache => rw [cache, KeyCache.isInitialized_install]
  | emptied _ _ cache => rw [cache, KeyCache.isInitialized_install]
  | kept _ _ _ cache => rwa [cache]
  | failed _ _ cache => rwa [cache]

end RefreshEnd

namespace Refresh

/-- Every set that the fetches bring is that of a document. -/
def FromDocuments (provider : Nat → Course) : Prop :=
  ∀ n set, (provider n).result.1 = .ok set →
    ∃ body time, (KeySet.ofDocument body time).1 = .ok set

private theorem Traffic.fromDocuments (w : Traffic) (f : Fetcher) :
    FromDocuments (w.provider f) := by
  intro n set found
  obtain ⟨body, -, read⟩ := RefreshCycle.finds_iff.2 found
  exact ⟨body, _, read⟩

/-- What a loop becomes, doing one thing after another at any moments, cancelled or not. -/
inductive Loop.Leads (r : Refresher) (provider : Nat → Course) (l : Loop) : Loop → Prop
  | refl : Leads r provider l l
  | does {l' l'' : Loop} {now : Nat} {cancelled : Bool} {deed : Deed}
      (before : Leads r provider l l') (does : l'.Does r provider now cancelled deed l'') :
      Leads r provider l l''
  | polled {l' : Loop} (before : Leads r provider l l') (moment : Nat) :
      Leads r provider l { l' with polled := moment }

namespace Loop

variable {r : Refresher} {provider : Nat → Course} {now : Nat} {cancelled : Bool} {deed : Deed}
variable {l l' : Loop}

/-- Both notions of a filled cache agree, and the fetch under way will keep it so. -/
structure InStep (l : Loop) : Prop where
  course : ∀ finish course due, l.phase = .fetching finish course due →
    ∀ set, course.result.1 = .ok set → set.fetched = true
  agrees : l.refresh.cache.Agrees

/-- Whatever the loop does keeps it in step. -/
theorem InStep.next (documents : FromDocuments provider) (inStep : l.InStep)
    (does : l.Does r provider now cancelled deed l') : l'.InStep := by
  obtain ⟨course, agrees⟩ := inStep
  cases does with
  | start => exact ⟨nofun, agrees⟩
  | stop => exact ⟨nofun, agrees⟩
  | abandonFetch => exact ⟨nofun, agrees⟩
  | beginFetch =>
    refine ⟨fun finish begun due phase set found => ?_, agrees⟩
    cases phase
    obtain ⟨body, time, read⟩ := documents l.calls set found
    exact KeySet.fetched_of_ofDocument read
  | @endFetch finish due fetch fetching =>
    refine ⟨nofun, ?_⟩
    exact (RefreshState.complete_end r l.refresh fetch.result (l.epoch + now)).agrees
      (course finish fetch due fetching) agrees

/-- What has been installed once stays. -/
theorem isInitialized_of_does (does : l.Does r provider now cancelled deed l')
    (before : l.refresh.cache.isInitialized = true) : l'.refresh.cache.isInitialized = true := by
  cases does with
  | endFetch => exact (RefreshState.complete_end ..).isInitialized before
  | start | stop | abandonFetch | beginFetch => exact before

namespace Leads

/-- What a loop in step leads to is in step. -/
theorem inStep (documents : FromDocuments provider) (leads : l.Leads r provider l')
    (inStep : l.InStep) : l'.InStep := by
  induction leads with
  | refl => exact inStep
  | does _ does ih => exact ih.next documents does
  | polled _ moment ih => exact ⟨ih.course, ih.agrees⟩

theorem isInitialized (leads : l.Leads r provider l')
    (before : l.refresh.cache.isInitialized = true) : l'.refresh.cache.isInitialized = true := by
  induction leads with
  | refl => exact before
  | does _ does ih => exact isInitialized_of_does does ih
  | polled _ _ ih => exact ih

theorem poll (leads : l.Leads r provider l') (now : Nat) (cancelled : Bool) :
    l.Leads r provider (l'.poll r provider now cancelled) :=
  poll_preserves (motive := l.Leads r provider) (fun _ _ _ before does => before.does does)
    (fun _ moment before => before.polled moment) leads

end Leads

end Loop

/-- The states of a run are what its loop leads to. -/
theorem Timeline.leads_play (r : Refresher) (provider : Nat → Course) (t : Timeline)
    (turns : List Turn) : t.loop.Leads r provider (t.play r provider turns).loop :=
  play_induction (motive := fun _ u _ => t.loop.Leads r provider u.loop) .refl
    (fun _ _ _ _ leads => leads.poll _ _) (fun _ _ _ leads => leads) turns

end Refresh

/-! ## What the service answers -/

namespace Http

open Refresh

/-- The paths that ask for no credentials. -/
def publicPaths : List String := ["/healthz", "/readyz"]

/-- The headers without those of one name. -/
def without (name : String) (headers : List (String × FieldValue)) : List (String × FieldValue) :=
  headers.filter fun h => h.1 != name

private theorem firstValue?_without {name other : String} (apart : name ≠ other)
    (headers : List (String × FieldValue)) :
    firstValue? (without other headers) name = firstValue? headers name := by
  rw [firstValue?, firstValue?, without, List.find?_filter]
  congr 2
  funext h
  by_cases same : h.1 = name <;> simp [same, apart]

private theorem service_healthz (check : SignatureCheck) (s : Session)
    (headers : List (String × FieldValue)) :
    service check s ⟨"GET", "/healthz", headers⟩ = alive ⟨"GET", "/healthz", headers⟩ := by
  have read : (Request.mk "GET" "/healthz" headers).isRead = true := rfl
  have routed : ∀ v set, (routes v set).find? (fun route => route.1 == "/healthz") =
      some ("/healthz", alive.readOnly.withAllow) := fun v set => rfl
  rw [service, Handler.ofRoutes, routed]
  simp only [Handler.withAllow, Handler.readOnly, read, ↓reduceIte]

/-- On a public path the handler looks at nothing that a reading request carries. -/
theorem exists_response_of_public (check : SignatureCheck) (s : Session) {path : String}
    (isPublic : path ∈ publicPaths) :
    ∃ response, ∀ headers,
      service check s ⟨"GET", path, headers⟩ = .ok { response := response } := by
  rw [publicPaths, List.mem_cons, List.mem_singleton] at isPublic
  rcases isPublic with rfl | rfl
  · exact ⟨_, service_healthz check s⟩
  · exact ⟨_, service_readyz check s⟩

section

variable (check : SignatureCheck) (s : Session) (generated : FieldValue)
variable (headers : List (String × FieldValue))

private theorem status_answer_readyz_iff :
    (answer check s generated (.readyz headers)).response.status = 200 ↔
      s.cache.current.fetched = true := by
  rw [status_answer_readyz]
  cases s.cache.current.fetched <;> simp

/-- A service that is ready tells the generation and the size of its key set. -/
theorem ofText?_answer_readyz (fetched : s.cache.current.fetched = true) :
    Json.ofText? (answer check s generated (.readyz headers)).response.body =
      some (.record [("status", .text "ready"),
        ("key_set_generation", count s.cache.current.generation),
        ("key_count", count s.cache.current.size)]) := by
  have whole : (Request.readyz headers).method ≠ "HEAD" := by simp [Request.readyz]
  rw [answer, serve_of_ok generated whole (service_readyz check s headers),
    Response.body_withHeader, readiness, if_pos fetched]
  refine Json.ofText?_write (Json.readsBack_record_iff.2 ⟨by simp, ?_⟩)
  intro m member
  simp only [List.mem_cons, List.not_mem_nil, or_false] at member
  rcases member with rfl | rfl | rfl
  · exact Json.readsBack_text _ _
  · exact Json.readsBack_natural _ _
  · exact Json.readsBack_natural _ _

/-- On a public path, requests that differ only in their credentials are answered alike; the status
and the body do not even depend on the id. -/
theorem answer_of_public {path : String} (isPublic : path ∈ publicPaths)
    {headers' : List (String × FieldValue)}
    (same : without "authorization" headers' = without "authorization" headers) :
    let reply := answer check s generated ⟨"GET", path, headers⟩
    answer check s generated ⟨"GET", path, headers'⟩ = reply ∧
    ∀ generated', let reply' := answer check s generated' ⟨"GET", path, headers'⟩
      reply'.response.status = reply.response.status ∧
      reply'.response.body = reply.response.body := by
  obtain ⟨response, answered⟩ := exists_response_of_public check s isPublic
  have whole (generated : FieldValue) (headers : List (String × FieldValue)) :=
    serve_of_ok generated (r := ⟨"GET", path, headers⟩) (by simp) (answered headers)
  have apart : requestIdHeader ≠ "authorization" := by decide
  have id : requestId generated ⟨"GET", path, headers'⟩ =
      requestId generated ⟨"GET", path, headers⟩ := by
    rw [requestId, requestId, Request.header?, Request.header?,
      ← firstValue?_without apart headers', ← firstValue?_without apart headers, same]
  refine ⟨?_, fun generated' => ?_⟩
  · rw [answer, whole, answer, whole, id]
  · rw [answer, whole, answer, whole]
    simp only [Response.status_withHeader, Response.body_withHeader, and_self]

end

/-- Behind any installs the service is ready just if the last set is not the sentinel, while the
cache counts as filled behind any install at all. Over the cache of a refresh loop the two agree
whatever the loop does, and what is ready stays ready. Among writers, a ready answer tells the
generation and the size of one installed set. On public paths, requests that differ only in their
credentials are answered alike. -/
theorem readiness_agrees (check : SignatureCheck) (s : Session) (generated : FieldValue)
    (headers : List (String × FieldValue)) :
    let reply (cache : KeyCache) : Reply :=
      answer check { s with cache := cache } generated (.readyz headers)
    let ready (cache : KeyCache) : Prop := (reply cache).response.status = 200
    (∀ sets : List KeySet, (∀ set ∈ sets, set.Made) →
      (ready (.behind sets) ↔ ∃ last, sets.getLast? = some last ∧ ¬ last.IsSentinel) ∧
      ((KeyCache.behind sets).isInitialized = true ↔ sets ≠ [])) ∧
    (∀ r provider epoch, FromDocuments provider →
      let first := Timeline.fresh epoch .new
      (∀ turns, first.loop.Leads r provider (first.play r provider turns).loop) ∧
      ∀ l, first.loop.Leads r provider l →
        (ready l.refresh.cache ↔ l.refresh.cache.isInitialized = true) ∧
        ∀ l', l.Leads r provider l' → ready l.refresh.cache → ready l'.refresh.cache) ∧
    (∀ (w : Traffic) f, FromDocuments (w.provider f)) ∧
    (∀ work readers schedule c, (SharedCache.start .new work readers).run? schedule = some c →
      ∀ seen ∈ c.readers, ∀ shown, .set shown ∈ seen → ∀ cache : KeyCache, cache.current = shown →
        ready cache → ∃ generation set, c.Tags generation set ∧
          (∀ set', c.Tags generation set' → set' = set) ∧
          Json.ofText? (reply cache).response.body = some (.record [("status", .text "ready"),
            ("key_set_generation", count generation), ("key_count", count set.size)])) ∧
    ∀ path ∈ publicPaths, ∀ headers',
      without "authorization" headers' = without "authorization" headers →
      let reply := answer check s generated ⟨"GET", path, headers⟩
      answer check s generated ⟨"GET", path, headers'⟩ = reply ∧
      ∀ generated', let reply' := answer check s generated' ⟨"GET", path, headers'⟩
        reply'.response.status = reply.response.status ∧
        reply'.response.body = reply.response.body := by
  intro reply ready
  have ready_iff (cache : KeyCache) : ready cache ↔ cache.current.fetched = true :=
    status_answer_readyz_iff check { s with cache := cache } generated headers
  refine ⟨fun sets made => ?_, ?_, Traffic.fromDocuments, ?_, ?_⟩
  · rw [ready_iff, KeyCache.fetched_behind_iff made]
    exact ⟨Iff.rfl, KeyCache.isInitialized_behind_iff sets⟩
  · intro r provider epoch documents first
    refine ⟨Timeline.leads_play r provider first, fun l leads => ?_⟩
    have fresh : first.loop.InStep := ⟨nofun, rfl⟩
    have inStep := leads.inStep documents fresh
    have now : ready l.refresh.cache ↔ l.refresh.cache.isInitialized = true := by
      rw [ready_iff, inStep.agrees]
    refine ⟨now, fun l' later before => ?_⟩
    rw [ready_iff, (later.inStep documents inStep).agrees]
    exact later.isInitialized (now.1 before)
  · intro work readers schedule c ran seen member shown listed cache current isReady
    subst current
    obtain ⟨installed, stored, serial⟩ := SharedCache.run?_serial ran
    have fetched := (ready_iff cache).1 isReady
    obtain ⟨generation, set, tags, unique, tagged⟩ := serial.exists_tags member listed fetched
    have told := ofText?_answer_readyz check { s with cache := cache } generated headers fetched
    refine ⟨generation, set, tags, unique, told.trans ?_⟩
    rw [tagged]
    rfl
  · intro path isPublic headers' same
    exact answer_of_public check s generated headers isPublic same

end Http

end TokenGate
