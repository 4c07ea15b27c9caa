import TokenGate.Proofs.Http.Gate

/-! # The id of a request on its response

Whatever becomes of a request behind the layers, its response carries one id: the request's own, or
else the one generated for it. A panic anywhere behind them is answered by the same document,
without a word of what it said. -/

namespace TokenGate.Http

/-! ## The layers at once -/

section Layers

variable {generated : FieldValue} {r : Request}

/-- A request that is passed on carries its id. -/
theorem header?_identified :
    (r.identified generated).header? requestIdHeader = some (requestId generated r) := by
  unfold Request.identified requestId
  cases found : r.header? requestIdHeader with
  | some id => exact found
  | none =>
    rw [Request.header?, firstValue?, Option.map_eq_none_iff] at found
    simp [Request.header?, firstValue?, List.find?_append, found]

private theorem header?_identified_of_ne {name : String} (apart : requestIdHeader ≠ name) :
    (r.identified generated).header? name = r.header? name := by
  unfold Request.identified
  split
  · rfl
  · have different : (requestIdHeader == name) = false := beq_false_of_ne apart
    simp [Request.header?, firstValue?, List.find?_append, different]

theorem method_identified : (r.identified generated).method = r.method := by
  unfold Request.identified
  split <;> rfl

private theorem path_identified : (r.identified generated).path = r.path := by
  unfold Request.identified
  split <;> rfl

theorem isRead_identified : (r.identified generated).isRead = r.isRead := by
  rw [Request.isRead, method_identified, Request.isRead]

/-- Passing a request on does not change its id. -/
theorem requestId_identified :
    requestId generated (r.identified generated) = requestId generated r := by
  rw [requestId, header?_identified, Option.getD_some]

/-- Layer by layer, a request is answered as it is at once when it comes with its id. -/
theorem layered_eq (generated : FieldValue) (h : Handler) (r : Request) :
    h.layered generated r = .ok (serve generated h (r.identified generated)) := by
  simp only [Handler.layered, Handler.headless, Handler.withId, Handler.echoId, Handler.recover,
    header?_identified, Except.map, serve, requestId_identified, withoutBodyForHead,
    method_identified]

end Layers

/-! ## Handlers that ignore the id -/

namespace Handler

/-- The handler answers a request with an id as it answers it without. -/
def IgnoresId (h : Handler) : Prop :=
  ∀ generated (r : Request), h (r.identified generated) = h r

private theorem IgnoresId.readOnly {h : Handler} (ignores : h.IgnoresId) :
    h.readOnly.IgnoresId := by
  intro generated r
  simp only [Handler.readOnly, isRead_identified, ignores generated r]

private theorem IgnoresId.withAllow {h : Handler} (ignores : h.IgnoresId) :
    h.withAllow.IgnoresId := by
  intro generated r
  simp only [Handler.withAllow, isRead_identified, ignores generated r]

private theorem IgnoresId.ofRoutes {routes : List (String × Handler)}
    (ignore : ∀ route ∈ routes, route.2.IgnoresId) : (ofRoutes routes).IgnoresId := by
  intro generated r
  simp only [Handler.ofRoutes, path_identified]
  split
  · next path h found => exact ignore _ (List.mem_of_find?_eq_some found) generated r
  · rfl

end Handler

private theorem authenticate_identified (validate : String → Except TokenRejection Claims)
    (generated : FieldValue) (r : Request) :
    authenticate validate (r.identified generated) = authenticate validate r := by
  have apart : requestIdHeader ≠ "authorization" := by decide
  simp only [authenticate, credentials, header?_identified_of_ne apart]

private theorem ignoresId_protect {validate : String → Except TokenRejection Claims}
    {h : Claims → Handler} (ignore : ∀ c, (h c).IgnoresId) : (protect validate h).IgnoresId := by
  intro generated r
  simp only [protect, authenticate_identified, ignore _ generated r]

private theorem ignoresId_service (check : SignatureCheck) (s : Session) :
    (service check s).IgnoresId := by
  refine .ofRoutes fun route member => ?_
  have constant (reply : Reply) : Handler.IgnoresId fun _ => .ok reply := fun _ _ => rfl
  simp only [routes, List.mem_cons, List.not_mem_nil, or_false] at member
  rcases member with rfl | rfl | rfl
  · exact (constant _).readOnly.withAllow
  · exact (constant _).readOnly.withAllow
  · exact (ignoresId_protect fun c => (constant _).readOnly).withAllow

/-! ## Responses without an id -/

namespace Response

def values (response : Response) (name : String) : List FieldValue :=
  (response.headers.filter fun h => h.1 == name).map (·.2)

/-- The response has no id of its own. -/
def Unnamed (response : Response) : Prop := response.values requestIdHeader = []

theorem unnamed_iff {response : Response} :
    response.Unnamed ↔ response.header? requestIdHeader = none := by
  simp [Unnamed, values, header?, firstValue?, List.find?_eq_none]

private theorem Unnamed.values_withHeader {response : Response} (unnamed : response.Unnamed)
    (id : FieldValue) : (response.withHeader requestIdHeader id).values requestIdHeader = [id] := by
  have absent := unnamed_iff.1 unnamed
  rw [Unnamed, values] at unnamed
  simp [withHeader, absent, values, List.filter_append, unnamed]

private theorem Unnamed.withHeader {response : Response} (unnamed : response.Unnamed)
    {name : String} (apart : name ≠ requestIdHeader) (value : FieldValue) :
    (response.withHeader name value).Unnamed :=
  unnamed_iff.2 ((header?_withHeader apart response value).trans (unnamed_iff.1 unnamed))

/-- A document carries no id. -/
theorem unnamed_ofJsonText (status : Nat) (body : String) : (ofJsonText status body).Unnamed := by
  have apart : ("content-type" == requestIdHeader) = false := by decide
  simp [Unnamed, values, ofJsonText, apart]

end Response

private theorem unnamed_catchPanic {outcome : Except Panic Reply}
    (unnamed : ∀ reply, outcome = .ok reply → reply.response.Unnamed) :
    (catchPanic outcome).response.Unnamed := by
  cases outcome with
  | ok reply => exact unnamed reply rfl
  | error p => exact Response.unnamed_ofJsonText _ _

private theorem values_withoutBodyForHead (r : Request) (response : Response) (name : String) :
    (withoutBodyForHead r response).values name = response.values name := by
  unfold withoutBodyForHead
  split <;> rfl

theorem status_withoutBodyForHead (r : Request) (response : Response) :
    (withoutBodyForHead r response).status = response.status := by
  unfold withoutBodyForHead
  split <;> rfl

private theorem body_withoutBodyForHead (r : Request) (response : Response) :
    (withoutBodyForHead r response).body = if r.method = "HEAD" then "" else response.body := by
  unfold withoutBodyForHead
  by_cases head : r.method = "HEAD" <;> simp [head]

/-- Whether a handler answers or panics, the response carries the id of the request and no other. -/
theorem values_serve {h : Handler} {r : Request} (generated : FieldValue)
    (unnamed : ∀ reply, h r = .ok reply → reply.response.Unnamed) :
    (serve generated h r).response.values requestIdHeader = [requestId generated r] := by
  rw [serve, values_withoutBodyForHead]
  exact (unnamed_catchPanic unnamed).values_withHeader _

private theorem body_panicResponse :
    panicResponse.body = "\x7b\"error\":\"internal_server_error\"\x7d" := by
  decide +kernel

private theorem serve_of_panic {h : Handler} {r : Request} {p : Panic} (generated : FieldValue)
    (panics : h r = .error p) :
    (serve generated h r).response.status = 500 ∧ (serve generated h r).response.body =
      if r.method = "HEAD" then "" else panicResponse.body := by
  rw [serve, panics]
  constructor
  · rw [status_withoutBodyForHead, Response.status_withHeader]
    rfl
  · rw [body_withoutBodyForHead, Response.body_withHeader, catchPanic]

/-! ## Outcomes under a change of the reply -/

section Outcome

variable {change : Reply → Reply} {outcome : Except Panic Reply}

theorem map_eq_ok_iff {reply : Reply} :
    outcome.map change = .ok reply ↔ ∃ inner, outcome = .ok inner ∧ change inner = reply := by
  cases outcome <;> simp [Except.map]

@[simp]
theorem map_eq_error_iff {p : Panic} : outcome.map change = .error p ↔ outcome = .error p := by
  cases outcome <;> simp [Except.map]

end Outcome

/-! ## What handlers answer -/

/-- What the service answers by itself: one of five statuses, and no id. -/
structure Response.Bare (response : Response) : Prop where
  unnamed : response.Unnamed
  status : response.status ∈ [200, 401, 404, 405, 503]

theorem Response.Bare.withHeader {response : Response} (bare : response.Bare) {name : String}
    (apart : name ≠ requestIdHeader) (value : FieldValue) :
    (response.withHeader name value).Bare := by
  refine ⟨bare.unnamed.withHeader apart value, ?_⟩
  rw [Response.status_withHeader]
  exact bare.status

namespace Handler

/-- The handler answers nothing but bare responses. -/
def Bare (h : Handler) : Prop := ∀ r reply, h r = .ok reply → reply.response.Bare

/-- A handler that panics on some requests. -/
def failing (fault : Request → Option Panic) (h : Handler) : Handler := fun r =>
  match fault r with
  | some p => .error p
  | none => h r

variable {h : Handler} {r : Request} {p : Panic}

/-- A handler with one answer is bare if the answer is. -/
theorem bare_of_constant {reply : Reply} (bare : reply.response.Bare) :
    Bare fun _ => .ok reply := by
  rintro r _ ⟨⟩
  exact bare

private theorem Bare.failing (bare : h.Bare) (fault : Request → Option Panic) :
    (h.failing fault).Bare := by
  intro r reply answered
  unfold Handler.failing at answered
  split at answered
  · cases answered
  · exact bare r reply answered

private theorem Bare.readOnly (bare : h.Bare) : h.readOnly.Bare := by
  intro r reply answered
  unfold Handler.readOnly at answered
  split at answered
  · exact bare r reply answered
  · cases answered
    exact ⟨rfl, by simp⟩

private theorem Bare.withAllow (bare : h.Bare) : h.withAllow.Bare := by
  intro r reply answered
  unfold Handler.withAllow at answered
  split at answered
  · exact bare r reply answered
  · obtain ⟨inner, outcome, rfl⟩ := map_eq_ok_iff.1 answered
    exact (bare r inner outcome).withHeader (by decide) _

private theorem Bare.ofRoutes {routes : List (String × Handler)}
    (bare : ∀ route ∈ routes, route.2.Bare) : (ofRoutes routes).Bare := by
  intro r reply answered
  unfold Handler.ofRoutes at answered
  split at answered
  · next path h found => exact bare _ (List.mem_of_find?_eq_some found) r reply answered
  · cases answered
    exact ⟨rfl, by simp⟩

@[simp]
theorem failing_eq_error_iff {fault : Request → Option Panic} :
    h.failing fault r = .error p ↔ fault r = some p ∨ fault r = none ∧ h r = .error p := by
  unfold failing
  cases fault r <;> simp

@[simp]
theorem readOnly_eq_error_iff :
    h.readOnly r = .error p ↔ r.isRead = true ∧ h r = .error p := by
  unfold readOnly
  split <;> simp_all

@[simp]
theorem withAllow_eq_error_iff : h.withAllow r = .error p ↔ h r = .error p := by
  unfold withAllow
  split
  · rfl
  · exact map_eq_error_iff

theorem ofRoutes_nil : ofRoutes [] r = .ok { response := { status := 404 } } := rfl

theorem ofRoutes_cons {path : String} {rest : List (String × Handler)} :
    ofRoutes ((path, h) :: rest) r = if path = r.path then h r else ofRoutes rest r := by
  by_cases here : path = r.path <;> simp [ofRoutes, here]

end Handler

@[simp]
theorem protect_eq_error_iff {validate : String → Except TokenRejection Claims}
    {h : Claims → Handler} {r : Request} {p : Panic} :
    protect validate h r = .error p ↔ ∃ c, authenticate validate r = .ok c ∧ h c r = .error p := by
  unfold protect
  cases authenticate validate r with
  | error reason => simp
  | ok c => simp

private theorem AuthRejection.bare_response (reason : AuthRejection) : reason.response.Bare := by
  have apart : "www-authenticate" ≠ requestIdHeader := by decide
  refine Response.Bare.withHeader ⟨Response.unnamed_ofJsonText _ _, ?_⟩ apart _
  simp [Response.ofJsonText]

private theorem bare_protect {validate : String → Except TokenRejection Claims}
    {h : Claims → Handler} (bare : ∀ c, (h c).Bare) : (protect validate h).Bare := by
  intro r reply answered
  unfold protect at answered
  split at answered
  · next c accepted =>
    obtain ⟨inner, outcome, rfl⟩ := map_eq_ok_iff.1 answered
    exact bare c r inner outcome
  · next reason rejected =>
    cases answered
    exact reason.bare_response

private theorem bare_alive : alive.Bare :=
  Handler.bare_of_constant ⟨Response.unnamed_ofJsonText _ _, by simp [Response.ofJsonText]⟩

private theorem bare_ready (set : KeySet) : (ready set).Bare := by
  refine Handler.bare_of_constant ?_
  unfold readiness
  split
  · exact ⟨Response.unnamed_ofJsonText _ _, by simp [Response.ofJsonText]⟩
  · exact ⟨Response.unnamed_ofJsonText _ _, by simp [Response.ofJsonText]⟩

private theorem bare_caller (c : Claims) : Handler.Bare fun _ => .ok { response := caller c } :=
  Handler.bare_of_constant ⟨Response.unnamed_ofJsonText _ _, by simp [caller, Response.ofJsonText]⟩

/-! ## The service where parts of it panic -/

/-- On which requests which parts of the service panic. -/
structure Faults where
  alive : Request → Option Panic := fun _ => none
  ready : Request → Option Panic := fun _ => none
  authentication : Request → Option Panic := fun _ => none
  caller : Claims → Request → Option Panic := fun _ _ => none

namespace Faults

def routes (faults : Faults) (validate : String → Except TokenRejection Claims) (set : KeySet) :
    List (String × Handler) :=
  let caller (c : Claims) : Handler := fun _ => .ok { response := Http.caller c }
  [("/healthz", (Http.alive.failing faults.alive).readOnly.withAllow),
    ("/readyz", ((Http.ready set).failing faults.ready).readOnly.withAllow),
    ("/v1/me", ((protect validate fun c => ((caller c).failing (faults.caller c)).readOnly).failing
      faults.authentication).withAllow)]

/-- The service, where parts of it panic. -/
def service (faults : Faults) (check : SignatureCheck) (s : Session) : Handler :=
  .ofRoutes (faults.routes (verdict check s) s.cache.current)

/-- A request is lost to a panic: in the handler that it gets to, or while its credentials are
checked. -/
inductive Panics (faults : Faults) (check : SignatureCheck) (s : Session) (r : Request)
    (p : Panic) : Prop
  | alive (path : r.path = "/healthz") (reads : r.isRead = true) (fault : faults.alive r = some p)
  | ready (path : r.path = "/readyz") (reads : r.isRead = true) (fault : faults.ready r = some p)
  | authentication (path : r.path = "/v1/me") (fault : faults.authentication r = some p)
  | caller {c : Claims} (path : r.path = "/v1/me") (reads : r.isRead = true)
      (checked : faults.authentication r = none)
      (accepted : authenticate (verdict check s) r = .ok c) (fault : faults.caller c r = some p)

private theorem service_without (check : SignatureCheck) (s : Session) :
    ({} : Faults).service check s = Http.service check s := rfl

variable {faults : Faults} {check : SignatureCheck} {s : Session} {r : Request} {p : Panic}

/-- The service panics on exactly the requests that are lost to a panic. -/
theorem service_eq_error_iff :
    faults.service check s r = .error p ↔ faults.Panics check s r p := by
  simp only [service, routes, Handler.ofRoutes_cons, Handler.ofRoutes_nil]
  constructor
  · intro panics
    split_ifs at panics with alive ready me
    · obtain ⟨reads, fault⟩ : r.isRead = true ∧ faults.alive r = some p := by
        simpa [Http.alive] using panics
      exact .alive alive.symm reads fault
    · obtain ⟨reads, fault⟩ : r.isRead = true ∧ faults.ready r = some p := by
        simpa [Http.ready] using panics
      exact .ready ready.symm reads fault
    · rw [Handler.withAllow_eq_error_iff, Handler.failing_eq_error_iff] at panics
      rcases panics with fault | ⟨checked, panics⟩
      · exact .authentication me.symm fault
      · obtain ⟨c, accepted, reads, fault⟩ : ∃ c, authenticate (verdict check s) r = .ok c ∧
            r.isRead = true ∧ faults.caller c r = some p := by simpa using panics
        exact .caller me.symm reads checked accepted fault
  · intro panics
    cases panics with
    | alive path reads fault => simp [path, reads, fault]
    | ready path reads fault => simp [path, reads, fault]
    | authentication path fault => simp [path, fault]
    | caller path reads checked accepted fault => simp [path, reads, checked, accepted, fault]

/-- What the service answers has one of five statuses, and no id of its own. -/
theorem bare_service (faults : Faults) (check : SignatureCheck) (s : Session) :
    (faults.service check s).Bare := by
  refine .ofRoutes fun route member => ?_
  simp only [routes, List.mem_cons, List.not_mem_nil, or_false] at member
  rcases member with rfl | rfl | rfl
  · exact (bare_alive.failing _).readOnly.withAllow
  · exact ((bare_ready _).failing _).readOnly.withAllow
  · refine (Handler.Bare.failing (bare_protect fun c => ?_) _).withAllow
    exact (Handler.Bare.failing (bare_caller c) _).readOnly

end Faults

/-- Every request is answered, whatever method, path and headers it has and whichever parts of the
service panic on it. The response carries one id: the request's first, or else the one generated. A
panic is answered by status 500 and a document that is the same for all panics, but for requests for
the head alone, which never get a document; everything else by one of five statuses. Without panics
this is how the service answers. -/
theorem response_identified (check : SignatureCheck) (faults : Faults) (s : Session)
    (generated : FieldValue) (r : Request) :
    let inner := r.identified generated
    ∃ reply, (faults.service check s).layered generated r = .ok reply ∧
      reply.response.values requestIdHeader = [(r.header? requestIdHeader).getD generated] ∧
      (∀ p, faults.Panics check s inner p → reply.response.status = 500 ∧
        reply.response.body =
          (if r.method = "HEAD" then "" else "\x7b\"error\":\"internal_server_error\"\x7d") ∧
        ∀ (faults' : Faults) p', faults'.Panics check s inner p' →
          (faults'.service check s).layered generated r = .ok reply) ∧
      ((∀ p, ¬ faults.Panics check s inner p) →
        reply.response.status ∈ [200, 401, 404, 405, 503]) ∧
      (({} : Faults).service check s).layered generated r = .ok (answer check s generated r) := by
  intro inner
  have bare := faults.bare_service check s inner
  refine ⟨_, layered_eq _ _ _, ?_, fun p panics => ?_, fun sound => ?_, ?_⟩
  · rw [values_serve generated fun reply answered => (bare reply answered).unnamed,
      requestId_identified]
    rfl
  · have lost := Faults.service_eq_error_iff.2 panics
    obtain ⟨status, body⟩ := serve_of_panic generated lost
    refine ⟨status, by rw [body, method_identified, body_panicResponse],
      fun faults' p' panics' => ?_⟩
    rw [layered_eq, serve, serve, lost, Faults.service_eq_error_iff.2 panics', catchPanic,
      catchPanic]
  · cases answered : faults.service check s inner with
    | error p => exact absurd (Faults.service_eq_error_iff.1 answered) (sound p)
    | ok reply =>
      rw [serve, answered, status_withoutBodyForHead, Response.status_withHeader]
      exact (bare reply answered).status
  · rw [Faults.service_without, layered_eq, answer, serve, serve,
      ignoresId_service check s generated r, requestId_identified]
    simp only [withoutBodyForHead, method_identified]

/-- A request for the head alone that is lost to a panic is answered without the document. -/
theorem panic_without_document :
    let faults : Faults := { alive := fun _ => some (.text "out of order") }
    let s : Session := { validator := ⟨"https://login.example.com/", "api", .zero⟩, now := 0 }
    let check : SignatureCheck := fun _ _ _ _ => false
    let r : Request := ⟨"HEAD", "/healthz", [(requestIdHeader, [0x31])]⟩
    faults.Panics check s r (.text "out of order") ∧
      ∃ reply, (faults.service check s).layered [0x32] r = .ok reply ∧
        reply.response.status = 500 ∧
        reply.response.body ≠ "\x7b\"error\":\"internal_server_error\"\x7d" := by
  intro faults s check r
  exact ⟨.alive rfl rfl rfl, _, rfl, rfl, by decide⟩

end TokenGate.Http
