import TokenGate.Proofs.Http.Gate
import TokenGate.Proofs.Refresh.FirstInstall
import TokenGate.Proofs.Settings.Usable
import TokenGate.Proofs.Token.Session
import TokenGate.Server.Serving

/-! # The decision at the start

A server waits for the first document that its loop brings, whichever cycle it comes from. If none
comes in time, it refuses to start or starts without, as the operator decided. Without a document it
turns away every token that names a key. The loop goes on meanwhile, and what it installs is what
the server answers with from then on. -/

namespace TokenGate

open Refresh

/-! ## What is shown of the cache -/

namespace Validator

/-- Before the first install every token that can be read and names a key is answered alike. -/
theorem validate_uninitialized (check : SignatureCheck) (v : Validator) (now : UInt64)
    {token kid : String} {t : ReadToken} (read : ReadToken.ofText (Text.trim token) = .ok t)
    (named : t.header.kid = some kid) (something : kid ≠ "") :
    (v.validate check .uninitialized now token).1 = .error (.keyNotFound kid) := by
  have absent : KeySet.uninitialized.get? kid = none := rfl
  have kept : t.header.kid.filter (fun kid => kid != "") = some kid := by simp [named, something]
  simp only [validate, judge, read, judgeRead, kept, absent]

end Validator

namespace Http

/-- A reading request for the readiness of the service. -/
def Request.readyz (headers : List (String × FieldValue)) : Request := ⟨"GET", "/readyz", headers⟩

private theorem status_readiness (set : KeySet) :
    (readiness set).status = if set.fetched then 200 else 503 := by
  unfold readiness
  split <;> rfl

theorem service_readyz (check : SignatureCheck) (s : Session)
    (headers : List (String × FieldValue)) :
    service check s (.readyz headers) = .ok { response := readiness s.cache.current } := by
  have read : (Request.readyz headers).isRead = true := rfl
  have path : (Request.readyz headers).path = "/readyz" := rfl
  have routed : ∀ v set, (routes v set).find? (fun route => route.1 == "/readyz") =
      some ("/readyz", (ready set).readOnly.withAllow) := fun v set => rfl
  rw [service, Handler.ofRoutes, path, routed]
  simp only [Handler.withAllow, Handler.readOnly, read, ↓reduceIte, ready]

/-- The service says it is ready just if the set in place has been fetched. -/
theorem status_answer_readyz (check : SignatureCheck) (s : Session) (generated : FieldValue)
    (headers : List (String × FieldValue)) :
    (answer check s generated (.readyz headers)).response.status =
      if s.cache.current.fetched then 200 else 503 := by
  have whole : (Request.readyz headers).method ≠ "HEAD" := by simp [Request.readyz]
  rw [answer, serve_of_ok generated whole (service_readyz check s headers),
    Response.status_withHeader, status_readiness]

end Http

namespace Server

/-! ## The wait for keys -/

/-- What the start comes to behind the wait for keys. -/
def listening (around : Surroundings) (l : Launch) (v : Validator) (task : RefreshTask) :
    Except StartupError Server :=
  if around.canListen l.address then .ok ⟨l.address, v, task, .ofSeconds l.shutdownTimeout⟩
  else .error (.address l.address)

section Wait

variable {around : Surroundings} {l : Launch} {v : Validator} {task task' : RefreshTask}

/-- A cache that is filled while the server waits lets it listen. -/
theorem startWith_of_filled (waited : task.waitInstalled l.settings.startupTimeout = task')
    (filled : task'.timeline.isInitialized = true) :
    (startWith around l v task).result = listening around l v task' := by
  have filled : task'.cache.isInitialized = true := filled
  unfold startWith awaitKeys listening
  simp only [waited, filled, if_true]
  split_ifs <;> rfl

/-- A cache that stays empty stops the server where keys are required. -/
theorem startWith_of_empty (waited : task.waitInstalled l.settings.startupTimeout = task')
    (empty : task'.timeline.isInitialized = false) :
    (startWith around l v task).result =
      if l.requireKeys then .error (.noKeys l.settings.startupTimeout)
      else listening around l v task' := by
  have empty : task'.cache.isInitialized = false := empty
  have required : l.settings.requireKeys = l.requireKeys := rfl
  unfold startWith awaitKeys listening
  simp only [waited, empty, required, Bool.false_eq_true, if_false]
  split_ifs <;> rfl

private theorem eq_of_listening {server : Server} (ok : listening around l v task = .ok server) :
    server.validator = v ∧ server.refresh = task := by
  unfold listening at ok
  split at ok
  · obtain rfl := Except.ok.inj ok
    exact ⟨rfl, rfl⟩
  · cases ok

private theorem startWith_eq_listening {server : Server}
    (waited : task.waitInstalled l.settings.startupTimeout = task')
    (ok : (startWith around l v task).result = .ok server) :
    listening around l v task' = .ok server := by
  cases filled : task'.timeline.isInitialized with
  | true => exact (startWith_of_filled waited filled).symm.trans ok
  | false =>
    rw [startWith_of_empty waited filled] at ok
    split at ok
    · cases ok
    · exact ok

end Wait

private theorem start_eq_startWith {around : Surroundings} {l : Launch} {f : Fetcher}
    {v : Validator} (accepted : l.settings.validate = .ok ())
    (built : fetcher around l.settings = .ok f) (made : l.settings.validator = .ok v) :
    start around l = startWith around l v
      ⟨.ofSettings f.endpoint.write l.settings, around.provider f, {}⟩ := by
  unfold start
  simp only [accepted, built, made]

/-- The interval of any settings is longer than the grace of a tick. -/
theorem grace_lt_ofSettings (endpoint : String) (s : Settings) :
    grace < (Refresher.ofSettings endpoint s).interval.toNanos := by
  have long := Refresher.toNanos_withInterval
    { endpoint := endpoint, emptyPolicy := s.emptyPolicy } s.refreshInterval
  exact Loop.grace_lt_interval ((le_max_right _ _).trans long.ge)

/-! ## The running server -/

section Running

variable {server : Server} {r : Refresher} {provider : Nat → Course}
variable (check : SignatureCheck) (now : UInt64) (generated : Http.FieldValue)
variable (headers : List (String × Http.FieldValue))

private theorem answer_of_new (empty : server.refresh.cache = .new) :
    (server.answer check now generated (.readyz headers)).response.status = 503 ∧
      ∀ token t kid, ReadToken.ofText (Text.trim token) = .ok t → t.header.kid = some kid →
        kid ≠ "" → Http.verdict check (server.session now) token = .error (.keyNotFound kid) := by
  refine ⟨?_, fun token t kid read named something => ?_⟩
  · rw [answer, Http.status_answer_readyz, session, empty]
    rfl
  · rw [Http.verdict, session, empty]
    exact Validator.validate_uninitialized check server.validator now read named something

private theorem answer_of_install {cache : KeyCache} {set : KeySet}
    (installed : server.refresh.cache = cache.install set) :
    ((server.answer check now generated (.readyz headers)).response.status = 200 ↔
        set.fetched = true) ∧
      ∀ token, Http.verdict check (server.session now) token =
        (server.validator.validate check set now token).1 := by
  have same : (cache.install set).current.keys = set.keys := rfl
  refine ⟨?_, fun token => ?_⟩
  · rw [answer, Http.status_answer_readyz, session, installed, KeyCache.current_install]
    cases fetched : set.fetched <;> simp_all [KeySet.fetched]
  · rw [Http.verdict, session, installed]
    rw [Validator.validate_congr_keys check server.validator same now token]

/-- A server whose loop is left alone goes on so. -/
theorem onSchedule_advance (refresher : server.refresh.refresher = r)
    (scripted : server.refresh.provider = provider) (spaced : grace < r.interval.toNanos)
    (left : server.refresh.timeline.Undisturbed r provider 0 .new) (later : Nat) :
    (server.advance later).refresh.timeline.loop.OnSchedule r provider 0 .new
        (server.refresh.timeline.now + later) ∧
      (0 < later → (server.advance later).refresh.timeline.loop.Rested
        (server.refresh.timeline.now + later)) := by
  subst refresher scripted
  obtain ⟨left', reached, rested⟩ := left.advanceTo spaced
    (Nat.le_add_right server.refresh.timeline.now later)
  have on := left'.on
  rw [reached] at on
  exact ⟨on, fun passed => rested (Nat.lt_add_of_pos_right passed)⟩

end Running

/-- The wait of a new loop. -/
theorem waited_task {r : Refresher} (provider : Nat → Course) (timeout : Duration)
    (spaced : grace < r.interval.toNanos) :
    ∃ task, RefreshTask.waitInstalled ⟨r, provider, {}⟩ timeout = task ∧
      task.refresher = r ∧ task.provider = provider ∧
      task.timeline.Undisturbed r provider 0 .new ∧
      task.timeline.Waited r provider timeout.toNanos := by
  obtain ⟨left, waited⟩ := (Timeline.undisturbed_fresh r provider 0 .new).waitInstalled spaced rfl
    timeout.toNanos
  have begun : (Timeline.fresh 0 .new).now = 0 := rfl
  rw [begun, Nat.zero_add] at waited
  exact ⟨_, rfl, rfl, rfl, left, waited⟩

/-- Accepted settings that name an issuer have all that a start needs. -/
private theorem exists_fetcher_validator {around : Surroundings} {s : Settings}
    (accepted : s.validate = .ok ()) (client : around.hasClient = true) (named : s.NamesIssuer) :
    ∃ f v, fetcher around s = .ok f ∧ s.validator = .ok v := by
  obtain ⟨f, built⟩ := exists_fetcher accepted client
  obtain ⟨issuer, -, -, made⟩ := (Settings.exists_validator_iff accepted).2 named
  exact ⟨f, _, built, made⟩

private theorem start_of_clientless {around : Surroundings} {l : Launch}
    (accepted : l.settings.validate = .ok ()) (clientless : around.hasClient = false) :
    start around l = { result := .error (.fetcher .transport) } := by
  obtain ⟨url, resolved⟩ := Settings.exists_resolvedEndpoint accepted
  have unbuilt : fetcher around l.settings = .error .transport := by
    rw [fetcher, Fetcher.ofSettings_eq_ok resolved, Except.bind,
      if_neg (Bool.eq_false_iff.1 clientless)]
  unfold start
  simp only [accepted, unbuilt]

/-- Accepted settings that name no issuer have no validator, and a start with them ends before there
is a loop. -/
private theorem start_of_unnamed (around : Surroundings) {l : Launch}
    (accepted : l.settings.validate = .ok ()) (client : around.hasClient = true)
    (unnamed : ¬ l.settings.NamesIssuer) :
    ∃ e, l.settings.resolvedIssuer = .error e ∧
      start around l = { result := .error (.validator e) } := by
  obtain ⟨f, built⟩ := exists_fetcher accepted client
  have unmade := Settings.validator_of_accepted accepted
  rw [← Settings.exists_resolvedIssuer_iff] at unnamed
  cases issued : l.settings.resolvedIssuer with
  | ok issuer => exact absurd ⟨issuer, issued⟩ unnamed
  | error e =>
    rw [issued] at unmade
    refine ⟨e, rfl, ?_⟩
    unfold start
    simp only [accepted, built, unmade, Except.map]

/-- Accepted settings end a start before there is a loop, if no client can be built or no issuer is
named. With any others a server starts as soon as the first document has come, if that is before the
timeout. If none comes up to the timeout, it refuses to start just if keys are required, and starts
with the empty cache otherwise. A running server answers before the first document that it knows no
key, and with what its loop has installed from then on. -/
theorem start_decides (around : Surroundings) (l : Launch)
    (accepted : l.settings.validate = .ok ()) :
    (around.hasClient = false →
      (start around l).result = .error (.fetcher .transport) ∧ (start around l).refresh = none) ∧
    (around.hasClient = true → ¬ l.settings.NamesIssuer → ∃ e,
      l.settings.resolvedIssuer = .error e ∧ (start around l).result = .error (.validator e) ∧
        (start around l).refresh = none) ∧
    (around.hasClient = true → l.settings.NamesIssuer →
      ∃ f v, fetcher around l.settings = .ok f ∧ l.settings.validator = .ok v ∧
        let r := Refresher.ofSettings f.endpoint.write l.settings
        let provider := around.provider f
        let timeout := l.settings.startupTimeout
        let result := (start around l).result
        (∀ n, IsFirst provider n → endsAt r provider n < timeout.toNanos →
          ∃ task : RefreshTask, result = listening around l v task ∧
            task.timeline.now = endsAt r provider n ∧ task.cache.isInitialized = true) ∧
        ((∀ n, BringsDocument (provider n).result → timeout.toNanos < endsAt r provider n) →
          if l.requireKeys then result = .error (.noKeys timeout)
          else ∃ task : RefreshTask, result = listening around l v task ∧
            task.timeline.now = timeout.toNanos ∧ task.cache = .new) ∧
        ∀ server, result = .ok server → ∀ check later now generated headers,
          let moment := server.refresh.timeline.now + later
          let s := server.advance later
          let ready := (s.answer check now generated (.readyz headers)).response.status
          let verdict := Http.verdict check (s.session now)
          ((∀ n, BringsDocument (provider n).result → moment < endsAt r provider n) →
            ready = 503 ∧ ∀ token t kid, ReadToken.ofText (Text.trim token) = .ok t →
              t.header.kid = some kid → kid ≠ "" → verdict token = .error (.keyNotFound kid)) ∧
          (0 < later → ∃ count, (∀ n, n < count ↔ endsAt r provider n ≤ moment) ∧
            s.refresh.cache = cacheBehind r provider 0 .new count) ∧
          ∀ n set, 0 < later → (provider n).result.1 = .ok set → endsAt r provider n ≤ moment →
            moment < endsAt r provider (n + 1) →
            (ready = 200 ↔ set.fetched = true) ∧
              ∀ token, verdict token = (v.validate check set now token).1) := by
  refine ⟨fun clientless => ?_, fun client unnamed => ?_, fun client named => ?_⟩
  · rw [start_of_clientless accepted clientless]
    exact ⟨rfl, rfl⟩
  · obtain ⟨e, unissued, ended⟩ := start_of_unnamed around accepted client unnamed
    exact ⟨e, unissued, by rw [ended], by rw [ended]⟩
  obtain ⟨f, v, built, made⟩ := exists_fetcher_validator accepted client named
  refine ⟨f, v, built, made, ?_⟩
  intro r provider timeout result
  have started : result = (startWith around l v ⟨r, provider, {}⟩).result :=
    congrArg Startup.result (start_eq_startWith accepted built made)
  have spaced : grace < r.interval.toNanos := grace_lt_ofSettings f.endpoint.write l.settings
  obtain ⟨task, wait, refresher, scripted, left, waited⟩ := waited_task provider timeout spaced
  refine ⟨fun n first soon => ?_, fun late => ?_, fun server ok => ?_⟩
  · obtain ⟨moment, filled⟩ := left.filled_of_isFirst waited first soon
    exact ⟨task, started.trans (startWith_of_filled wait filled), moment, filled⟩
  · obtain ⟨moment, empty⟩ := waited.empty_of_late late
    rw [started, startWith_of_empty wait empty]
    split
    · rfl
    · exact ⟨task, rfl, moment, left.on.cache_eq_new (moment ▸ late)⟩
  · intro check later now generated headers moment s ready verdict
    obtain ⟨validator, rfl⟩ := eq_of_listening (startWith_eq_listening wait (started ▸ ok))
    obtain ⟨on, rested⟩ := onSchedule_advance refresher scripted spaced left later
    refine ⟨fun early => ?_, fun passed => on.exists_count (rested passed), ?_⟩
    · exact answer_of_new check now generated headers (on.cache_eq_new early)
    · intro n set passed fetched ended last
      obtain ⟨count, behind, held⟩ := on.exists_count (rested passed)
      have reached : count = n + 1 := by
        have after := behind n
        have before := behind (n + 1)
        omega
      rw [reached, cacheBehind_of_ok 0 .new fetched] at held
      rw [← validator]
      exact answer_of_install check now generated headers held

/-- The first fetch fails, and the one of the next tick is in time. -/
theorem start_decides_on_retry :
    let set : KeySet := ⟨[⟨"k1", .es256, .ec, .ec [] []⟩], some 1, 0, by decide⟩
    let provider (_ : Fetcher) (n : Nat) : Course :=
      ⟨0, if n = 0 then .error .transport else .ok set, []⟩
    let l : Launch :=
      { tenant := some "acme", audience := "api", refreshInterval := 1, requireKeys := true }
    l.settings.validate = .ok () ∧ l.settings.NamesIssuer ∧
      ∃ server, (start ⟨true, provider, fun _ => true⟩ l).result = .ok server ∧
        server.refresh.timeline.now = 1000000000 := by
  intro set provider l
  have accepted : l.settings.validate = .ok () := by decide +kernel
  have named : l.settings.NamesIssuer := Or.inr ⟨"acme", rfl, by decide, by decide⟩
  obtain ⟨f, v, -, -, soon, -, -⟩ :=
    (start_decides ⟨true, provider, fun _ => true⟩ l accepted).2.2 rfl named
  have first : IsFirst (provider f) 1 := by
    refine ⟨Or.inl ⟨set, rfl⟩, fun m brings => Nat.pos_of_ne_zero ?_⟩
    rintro rfl
    simp [BringsDocument, provider] at brings
  have second : max (Duration.ofSeconds 1).toNanos Refresher.minInterval.toNanos = 1000000000 := by
    decide +kernel
  have period : (Refresher.ofSettings f.endpoint.write l.settings).interval.toNanos = 1000000000 :=
    (Refresher.toNanos_withInterval _ _).trans second
  have moment : endsAt (.ofSettings f.endpoint.write l.settings) (provider f) 1 = 1000000000 := by
    simp [endsAt, beginsAt, tick, nextTick, period, provider]
  obtain ⟨task, ok, now, -⟩ := soon 1 first (by rw [moment]; decide)
  exact ⟨accepted, named, _, ok, now.trans moment⟩

/-- Documents come at once, and no keys are required: the settings are accepted, and nothing starts
for want of an issuer. -/
theorem start_without_issuer :
    let set : KeySet := ⟨[⟨"k1", .es256, .ec, .ec [] []⟩], some 1, 0, by decide⟩
    let provider (_ : Fetcher) (_ : Nat) : Course := ⟨0, .ok set, []⟩
    let l : Launch :=
      { audience := "api", jwksUri := some "https://login.example.com/.well-known/jwks.json" }
    l.settings.validate = .ok () ∧ l.requireKeys = false ∧ (∀ f, IsFirst (provider f) 0) ∧
      (start ⟨true, provider, fun _ => true⟩ l).result =
        .error (.validator (.missing "issuer or tenant")) ∧
      (start ⟨true, provider, fun _ => true⟩ l).refresh = none := by
  intro set provider l
  have accepted : l.settings.validate = .ok () := by decide +kernel
  have first (f : Fetcher) : IsFirst (provider f) 0 :=
    ⟨Or.inl ⟨set, rfl⟩, fun m _ => Nat.zero_le m⟩
  have unissued : l.settings.resolvedIssuer = .error (.missing "issuer or tenant") := by
    decide +kernel
  have unnamed : ¬ l.settings.NamesIssuer := by
    rw [← Settings.exists_resolvedIssuer_iff, unissued]
    simp
  obtain ⟨e, why, ended⟩ :=
    start_of_unnamed ⟨true, provider, fun _ => true⟩ accepted rfl unnamed
  obtain rfl := Except.error.inj (unissued.symm.trans why)
  exact ⟨accepted, rfl, first, by rw [ended], by rw [ended]⟩

end Server

end TokenGate
