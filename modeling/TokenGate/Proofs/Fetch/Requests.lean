import Mathlib
import TokenGate.Proofs.Fetch.Document
import TokenGate.Proofs.Key.Entry
import TokenGate.Proofs.Settings.Usable

/-! # Where the requests of a fetch go

The first request of a fetch goes to the endpoint of its fetcher, which was checked to be secure.
Every other one goes where the answer to the request before sends it. Nothing is checked there: an
answer may lead away from secure URLs, and keys are then read from where it leads. -/

namespace TokenGate

/-- A fetcher as it can be made; its limit may be another one. -/
inductive Fetcher.Made : Fetcher → Prop
  | ofUrl {endpoint : Url} {timeout : Duration} {f : Fetcher}
      (built : Fetcher.ofUrl endpoint timeout = .ok f) : Made f
  | ofSettings {s : Settings} {f : Fetcher} (built : Fetcher.ofSettings s = .ok f) : Made f
  | withLimit {f : Fetcher} (made : Made f) (limit : UInt64) : Made { f with limit := limit }

private theorem Fetcher.isSecure_of_ofUrl {endpoint : Url} {timeout : Duration} {f : Fetcher}
    (built : Fetcher.ofUrl endpoint timeout = .ok f) : f.endpoint.isSecure = true := by
  unfold ofUrl at built
  split at built
  · next secure =>
    obtain rfl := Except.ok.inj built
    exact secure
  · cases built

private theorem Fetcher.isSecure_of_ofSettings {s : Settings} {f : Fetcher}
    (built : Fetcher.ofSettings s = .ok f) : f.endpoint.isSecure = true := by
  cases resolved : s.resolvedEndpoint with
  | error e => simp [ofSettings, resolved] at built
  | ok url =>
    obtain rfl := Except.ok.inj ((Fetcher.ofSettings_eq_ok resolved).symm.trans built)
    exact Settings.isSecure_of_resolvedEndpoint resolved

private theorem Fetcher.Made.isSecure {f : Fetcher} (made : f.Made) :
    f.endpoint.isSecure = true := by
  induction made with
  | ofUrl built => exact Fetcher.isSecure_of_ofUrl built
  | ofSettings built => exact Fetcher.isSecure_of_ofSettings built
  | withLimit _ _ ih => exact ih

namespace Fetch

/-- The request of this number is sent, if it is one to this URL. -/
def Reaches (network : Network) (n : Nat) (url : Url) : Prop :=
  isWeb url = true ∧ network n url ≠ .refused

/-- The answer to a request sends it to another URL. -/
def Redirects (network : Network) (n : Nat) (url next : Url) : Prop :=
  ∃ a, network n url = .answered a ∧ redirect? url a = some next

/-- Where the answer to a request sends it. -/
def next? (network : Network) (n : Nat) (url : Url) : Option Url :=
  match network n url with
  | .answered a => redirect? url a
  | _ => none

theorem next?_eq_some_iff {network : Network} {n : Nat} {url next : Url} :
    next? network n url = some next ↔ Redirects network n url next := by
  unfold next? Redirects
  cases network n url <;> simp

section

variable (f : Fetcher) (network : Network) (redirects count : Nat) (url : Url)

/-- A URL whose request is not sent ends the fetch with nothing. -/
theorem follow_of_not_reaches (unsent : ¬ Reaches network count url) :
    follow f network redirects count url = ([], .error .transport) := by
  unfold follow
  split
  · rfl
  · next web =>
    split
    · rfl
    all_goals
      next reaction =>
      exact absurd ⟨by simpa using web, by simp [reaction]⟩ unsent

/-- A request that is sent stands first, and the ones behind it are those of its redirect. -/
theorem follow_fst_of_reaches (sent : Reaches network count url) :
    (follow f network redirects count url).1 =
      url :: match redirects, next? network count url with
        | redirects + 1, some next => (follow f network redirects (count + 1) next).1
        | _, _ => [] := by
  obtain ⟨web, connected⟩ := sent
  rw [follow.eq_def, next?, if_neg (by simp [web])]
  cases reaction : network count url with
  | refused => exact absurd reaction connected
  | dropped => cases redirects <;> rfl
  | silent => cases redirects <;> rfl
  | answered a =>
    cases target : redirect? url a with
    | none => cases redirects <;> simp [target]
    | some next => cases redirects <;> simp [target]

theorem getElem?_zero_follow (first : Url) :
    (follow f network redirects count url).1[0]? = some first ↔
      first = url ∧ Reaches network count url := by
  by_cases sent : Reaches network count url
  · rw [follow_fst_of_reaches f network redirects count url sent]
    simp [sent, eq_comm]
  · simp [follow_of_not_reaches f network redirects count url sent, sent]

/-- A request is followed by the one that its answer asks for, if that can be sent and the redirects
so far have been few enough. -/
theorem getElem?_succ_follow (n : Nat) (later : Url) :
    (follow f network redirects count url).1[n + 1]? = some later ↔
      n < redirects ∧ Reaches network (count + n + 1) later ∧
        ∃ earlier, (follow f network redirects count url).1[n]? = some earlier ∧
          Redirects network (count + n) earlier later := by
  induction redirects generalizing count url n with
  | zero =>
    by_cases sent : Reaches network count url
    · simp [follow_fst_of_reaches f network 0 count url sent]
    · simp [follow_of_not_reaches f network 0 count url sent]
  | succ redirects ih =>
    by_cases sent : Reaches network count url
    · rw [follow_fst_of_reaches f network (redirects + 1) count url sent]
      cases target : next? network count url with
      | none =>
        have stays (next : Url) : ¬ Redirects network count url next := by
          rw [← next?_eq_some_iff, target]
          simp
        cases n with
        | zero => simp [stays]
        | succ n => simp
      | some next =>
        have redirected : Redirects network count url next := next?_eq_some_iff.1 target
        cases n with
        | zero =>
          simp only [List.getElem?_cons_succ, getElem?_zero_follow, List.getElem?_cons_zero]
          constructor
          · rintro ⟨rfl, reached⟩
            exact ⟨Nat.succ_pos _, reached, url, rfl, redirected⟩
          · rintro ⟨-, reached, earlier, here, redirected'⟩
            obtain rfl := Option.some.inj here
            have same := next?_eq_some_iff.2 redirected'
            obtain rfl := Option.some.inj (target.symm.trans same)
            exact ⟨rfl, reached⟩
        | succ n =>
          simp only [List.getElem?_cons_succ, ih, Nat.add_lt_add_iff_right]
          rw [show count + 1 + n = count + (n + 1) by omega]
    · simp [follow_of_not_reaches f network (redirects + 1) count url sent]

private theorem length_follow_le :
    (follow f network redirects count url).1.length ≤ redirects + 1 := by
  by_contra long
  have present := List.getElem?_eq_getElem (Nat.not_le.1 long)
  exact absurd ((getElem?_succ_follow f network redirects count url redirects _).1 present).1
    (Nat.lt_irrefl _)

/-- The last answer is the one to the last request, and sends it nowhere. -/
theorem follow_snd_eq_ok {a : Answer} (answered : (follow f network redirects count url).2 = .ok a) :
    ∃ n last, (follow f network redirects count url).1.length = n + 1 ∧
      (follow f network redirects count url).1[n]? = some last ∧
      network (count + n) last = .answered a ∧ redirect? last a = none := by
  fun_induction follow f network redirects count url with
  | case5 redirects count url _ a' reaction stays =>
    obtain rfl := Except.ok.inj answered
    exact ⟨0, url, rfl, rfl, reaction, stays⟩
  | case7 count url _ _ _ next _ redirects urls result followed ih =>
    rw [followed] at ih
    obtain ⟨n, last, length, present, reaction, stays⟩ := ih answered
    refine ⟨n + 1, last, by simp [length], by simpa using present, ?_, stays⟩
    rw [← reaction]
    congr 1
    omega
  | _ => cases answered

end

private theorem run_fst (f : Fetcher) (network : Network) (time : SystemTime) :
    (run f network time).1 = (answer f network).1 := by
  unfold run
  rcases answer f network with ⟨urls, reason | a⟩
  · rfl
  · rfl

/-- The keys of a fetch are those of the document that answers its last request. -/
theorem run_eq_ok {f : Fetcher} {network : Network} {time : SystemTime} {set : KeySet}
    (fetched : (run f network time).2.1 = .ok set) :
    ∃ n last a body, (answer f network).1.length = n + 1 ∧
      (answer f network).1[n]? = some last ∧ network n last = .answered a ∧
      document f a = .ok body ∧ (KeySet.ofDocument body time).1 = .ok set := by
  rw [run_eq_bind] at fetched
  cases answered : (answer f network).2 with
  | error reason => simp [answered, Except.bind] at fetched
  | ok a =>
    rw [answered, Except.bind] at fetched
    cases read : document f a with
    | error reason => simp [read, Except.bind] at fetched
    | ok body =>
      rw [read, Except.bind] at fetched
      obtain ⟨n, last, length, present, reaction, -⟩ :=
        follow_snd_eq_ok f network maxRedirects 0 f.endpoint answered
      rw [Nat.zero_add] at reaction
      exact ⟨n, last, a, body, length, present, reaction, read, fetched⟩

/-- The requests of a fetch go to its endpoint, which is secure, and then wherever the answers send
them. So all of them are secure exactly if no answer sends one to a URL that is not, and the keys
come from the last of them. -/
theorem requests_secure_iff {f : Fetcher} (made : f.Made) (network : Network) (time : SystemTime) :
    let urls := (run f network time).1
    f.endpoint.isSecure = true ∧ urls.length ≤ maxRedirects + 1 ∧
    (∀ first, urls[0]? = some first ↔ first = f.endpoint ∧ Reaches network 0 f.endpoint) ∧
    (∀ n later, urls[n + 1]? = some later ↔ n < maxRedirects ∧ Reaches network (n + 1) later ∧
      ∃ earlier, urls[n]? = some earlier ∧ Redirects network n earlier later) ∧
    ((∀ url ∈ urls, url.isSecure = true) ↔
      ∀ n earlier later, urls[n]? = some earlier → Redirects network n earlier later →
        n < maxRedirects → Reaches network (n + 1) later → later.isSecure = true) ∧
    ∀ set, (run f network time).2.1 = .ok set → ∃ n last a body, urls.length = n + 1 ∧
      urls[n]? = some last ∧ network n last = .answered a ∧ document f a = .ok body ∧
      (KeySet.ofDocument body time).1 = .ok set := by
  intro urls
  have first (url : Url) :
      urls[0]? = some url ↔ url = f.endpoint ∧ Reaches network 0 f.endpoint := by
    rw [show urls = (answer f network).1 from run_fst f network time]
    exact getElem?_zero_follow f network maxRedirects 0 f.endpoint url
  have hop (n : Nat) (later : Url) :
      urls[n + 1]? = some later ↔ n < maxRedirects ∧ Reaches network (n + 1) later ∧
        ∃ earlier, urls[n]? = some earlier ∧ Redirects network n earlier later := by
    have hops := getElem?_succ_follow f network maxRedirects 0 f.endpoint n later
    rw [Nat.zero_add] at hops
    rw [show urls = (answer f network).1 from run_fst f network time]
    exact hops
  refine ⟨made.isSecure, ?_, first, hop, ?_, ?_⟩
  · rw [show urls = (answer f network).1 from run_fst f network time]
    exact length_follow_le f network maxRedirects 0 f.endpoint
  · constructor
    · intro secure n earlier later present redirected few reached
      have sent := (hop n later).2 ⟨few, reached, earlier, present, redirected⟩
      exact secure later (List.mem_of_getElem? sent)
    · intro kept url member
      obtain ⟨n, present⟩ := List.mem_iff_getElem?.1 member
      cases n with
      | zero =>
        obtain ⟨rfl, -⟩ := (first url).1 present
        exact made.isSecure
      | succ n =>
        obtain ⟨few, reached, earlier, before, redirected⟩ := (hop n url).1 present
        exact kept n earlier url before redirected few reached
  · intro set fetched
    rw [show urls = (answer f network).1 from run_fst f network time]
    exact run_eq_ok fetched

/-- A URL of the path `jwks`. -/
def jwksUrl (scheme host : String) : Url :=
  ⟨scheme, "", "", some (.domain host), none, .rooted ["jwks"], none, none⟩

/-- One answer that sends a request elsewhere, and a document with one key there. -/
def Network.detour (location : String) : Network := fun n _ =>
  if n = 0 then .answered { status := 302, location := some location }
  else .answered { status := 200, chunks := [("\x7b\"keys\":[\x7b\"kty\":\"EC\",\"use\":\"sig\"," ++
    "\"kid\":\"k1\",\"crv\":\"P-256\",\"x\":\"AA\",\"y\":\"AA\"\x7d]\x7d").toUTF8.toList] }

/-- The fetcher of an encrypted endpoint. -/
def loginFetcher : Fetcher := ⟨jwksUrl "https" "login.example.com", .ofSeconds 10, 262144⟩

/-- The endpoint is secure, and so is the URL that its answer names; both requests are sent. -/
theorem requests_secure_iff_detour :
    let network := Network.detour "https://keys.example.com/jwks"
    Fetcher.ofUrl (jwksUrl "https" "login.example.com") (.ofSeconds 10) = .ok loginFetcher ∧
      (run loginFetcher network).1 =
        [jwksUrl "https" "login.example.com", jwksUrl "https" "keys.example.com"] ∧
      ∃ set last a body, (run loginFetcher network).2.1 = .ok set ∧
        (run loginFetcher network).1[1]? = some last ∧ last.isSecure = true ∧
        network 1 last = .answered a ∧ document loginFetcher a = .ok body ∧
        (KeySet.ofDocument body 0).1 = .ok set := by
  intro network
  have built : Fetcher.ofUrl (jwksUrl "https" "login.example.com") (.ofSeconds 10) =
      .ok loginFetcher := by decide +kernel
  have asked : (run loginFetcher network).1 =
      [jwksUrl "https" "login.example.com", jwksUrl "https" "keys.example.com"] := by
    decide +kernel
  have evaluated : ((run loginFetcher network).2.1.toOption.any fun set => set.size == 1) = true := by
    decide +kernel
  obtain ⟨set, fetched, -⟩ := exists_ok_of_any evaluated
  obtain ⟨-, -, -, -, -, origin⟩ := requests_secure_iff (.ofUrl built) network 0
  obtain ⟨n, last, a, body, length, present, answered, read, made⟩ := origin set fetched
  obtain rfl : n = 1 := by simpa [asked] using length.symm
  have secure : last.isSecure = true := by
    rw [asked] at present
    obtain rfl := Option.some.inj present
    decide
  exact ⟨built, asked, set, last, a, body, fetched, present, secure, answered, read, made⟩

/-- An answer to an encrypted request leads to one that is not, and the keys are read there. -/
theorem keys_from_insecure_url :
    let network := Network.detour "http://keys.example.com/jwks"
    Fetcher.ofUrl (jwksUrl "https" "login.example.com") (.ofSeconds 10) = .ok loginFetcher ∧
      (run loginFetcher network).1 =
        [jwksUrl "https" "login.example.com", jwksUrl "http" "keys.example.com"] ∧
      (jwksUrl "http" "keys.example.com").isSecure = false ∧
      ∃ set, (run loginFetcher network).2.1 = .ok set ∧ set.size = 1 := by
  intro network
  have built : Fetcher.ofUrl (jwksUrl "https" "login.example.com") (.ofSeconds 10) =
      .ok loginFetcher := by decide +kernel
  have asked : (run loginFetcher network).1 =
      [jwksUrl "https" "login.example.com", jwksUrl "http" "keys.example.com"] := by
    decide +kernel
  have insecure : (jwksUrl "http" "keys.example.com").isSecure = false := by decide +kernel
  have evaluated : ((run loginFetcher network).2.1.toOption.any fun set => set.size == 1) = true := by
    decide +kernel
  obtain ⟨set, fetched, one⟩ := exists_ok_of_any evaluated
  exact ⟨built, asked, insecure, set, fetched, by simpa using one⟩

end Fetch

end TokenGate
