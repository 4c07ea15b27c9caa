import Mathlib
import TokenGate.Proofs.Server.Startup

/-! # What accepted settings are good for

Accepted settings have an endpoint, so there is a fetcher for them. They have an issuer, and so a
validator, if the endpoint is derived from it. An endpoint that is given spares the settings an
issuer: they are accepted without one, and the server does not start. -/

namespace TokenGate

namespace Settings

variable {s : Settings}

/-- There is an issuer, or the name of a tenant that can have one. -/
def NamesIssuer (s : Settings) : Prop :=
  (∃ issuer, s.issuer = some issuer ∧ Text.blank issuer = false) ∨
    ∃ tenant, s.tenant = some tenant ∧ Text.trim tenant ≠ "" ∧
      (Text.trim tenant).toList.all isTenantChar = true

theorem present_eq_some_iff {text : Option String} {t : String} :
    present text = some t ↔ text = some t ∧ Text.blank t = false := by
  simp [present, Option.filter_eq_some_iff]

/-- A tenant stands for an issuer if its name, trimmed, is not empty and of the characters allowed.
-/
theorem tenantIssuer_eq_ok_iff {issuer : String} :
    s.tenantIssuer = .ok issuer ↔ ∃ tenant, s.tenant = some tenant ∧ Text.trim tenant ≠ "" ∧
      (Text.trim tenant).toList.all isTenantChar = true ∧
        issuer = hostedIssuer (Text.trim tenant) := by
  unfold tenantIssuer
  cases named : s.tenant with
  | none => simp
  | some tenant =>
    simp only [Option.map_some, Option.filter_some, bne_iff_ne, Option.some.injEq, exists_eq_left']
    by_cases something : Text.trim tenant = ""
    · simp only [something, ne_eq, not_true_eq_false, false_and, if_false, reduceCtorEq]
    · rw [if_pos something]
      by_cases allowed : (Text.trim tenant).toList.all isTenantChar = true
      · simp only [allowed, something, if_true, ne_eq, not_false_eq_true, true_and, Except.ok.injEq]
        exact eq_comm
      · simp only [allowed, false_and, and_false, if_false, reduceCtorEq, Bool.false_eq_true]

private theorem blank_hostedIssuer (tenant : String) :
    Text.blank (hostedIssuer tenant) = false := by
  have first : 'h' ∈ (hostedIssuer tenant).toList := by simp [hostedIssuer]
  exact List.all_eq_false.2 ⟨'h', first, by decide⟩

private theorem blank_of_resolvedIssuer {issuer : String}
    (resolved : s.resolvedIssuer = .ok issuer) : Text.blank issuer = false := by
  unfold resolvedIssuer at resolved
  split at resolved
  · next given =>
    obtain rfl := Except.ok.inj resolved
    exact (present_eq_some_iff.1 given).2
  · obtain ⟨tenant, -, -, -, rfl⟩ := tenantIssuer_eq_ok_iff.1 resolved
    exact blank_hostedIssuer _

/-- There is an issuer just if one is named. -/
theorem exists_resolvedIssuer_iff : (∃ issuer, s.resolvedIssuer = .ok issuer) ↔ s.NamesIssuer := by
  unfold resolvedIssuer NamesIssuer
  simp only [← present_eq_some_iff]
  cases given : present s.issuer with
  | some issuer => simp
  | none =>
    simp only [tenantIssuer_eq_ok_iff, reduceCtorEq, exists_false, false_or]
    constructor
    · rintro ⟨_, tenant, named, something, allowed, -⟩
      exact ⟨tenant, named, something, allowed⟩
    · rintro ⟨tenant, named, something, allowed⟩
      exact ⟨_, tenant, named, something, allowed, rfl⟩

theorem exists_resolvedEndpoint (accepted : s.validate = .ok ()) :
    ∃ url, s.resolvedEndpoint = .ok url := by
  unfold validate at accepted
  split at accepted
  · cases accepted
  · cases resolved : s.resolvedEndpoint with
    | error e => simp [resolved] at accepted
    | ok url => exact ⟨url, rfl⟩

theorem isSecure_of_endpointUrl {text : String} {url : Url} (made : endpointUrl text = .ok url) :
    url.isSecure = true := by
  unfold endpointUrl at made
  split at made
  · cases made
  · split at made
    · next secure => exact Except.ok.inj made ▸ secure
    · cases made

/-- Every endpoint of settings is secure. -/
theorem isSecure_of_resolvedEndpoint {url : Url} (resolved : s.resolvedEndpoint = .ok url) :
    url.isSecure = true := by
  unfold resolvedEndpoint at resolved
  cases text : s.endpointText with
  | error e => simp [text, Except.bind] at resolved
  | ok text =>
    rw [text] at resolved
    exact isSecure_of_endpointUrl resolved

/-- Without an endpoint of their own, settings derive it from their issuer. -/
theorem namesIssuer_of_derived {url : Url} (resolved : s.resolvedEndpoint = .ok url)
    (derived : present s.jwksUri = none) : s.NamesIssuer := by
  rw [← exists_resolvedIssuer_iff]
  unfold resolvedEndpoint endpointText at resolved
  cases issued : s.resolvedIssuer with
  | error e => simp [derived, issued, Except.map, Except.bind] at resolved
  | ok issuer => exact ⟨issuer, rfl⟩

end Settings

theorem Fetcher.ofSettings_eq_ok {s : Settings} {url : Url}
    (resolved : s.resolvedEndpoint = .ok url) :
    Fetcher.ofSettings s = .ok ⟨url, s.fetchTimeout, s.maxDocumentBytes⟩ := by
  simp [ofSettings, resolved, ofUrl, Settings.isSecure_of_resolvedEndpoint resolved, Except.map]

/-- Of accepted settings the issuer alone decides whether there is a validator. -/
theorem Settings.validator_of_accepted {s : Settings} (accepted : s.validate = .ok ()) :
    s.validator = s.resolvedIssuer.map fun issuer => ⟨issuer, s.audience, s.clockSkew⟩ := by
  rw [validator, accepted, Except.bind]

namespace Server

variable {around : Surroundings} {l : Launch}

/-- Where a client can be built, accepted settings have a fetcher. -/
theorem exists_fetcher {s : Settings} (accepted : s.validate = .ok ())
    (client : around.hasClient = true) : ∃ f, fetcher around s = .ok f := by
  obtain ⟨url, resolved⟩ := Settings.exists_resolvedEndpoint accepted
  exact ⟨_, by rw [fetcher, Fetcher.ofSettings_eq_ok resolved, Except.bind, if_pos client]⟩

/-- Behind its own check of the settings, starting fails for want of an issuer only. -/
theorem start_isConfiguration_iff (accepted : l.settings.validate = .ok ())
    (client : around.hasClient = true) :
    (∃ e, (start around l).result = .error e ∧ e.isConfiguration = true) ↔
      ¬ l.settings.NamesIssuer := by
  obtain ⟨f, built⟩ := exists_fetcher accepted client
  rw [← Settings.exists_resolvedIssuer_iff]
  unfold start
  simp only [accepted, built, Settings.validator_of_accepted accepted]
  cases issued : l.settings.resolvedIssuer with
  | error e =>
    simp only [Except.map, reduceCtorEq, exists_false, not_false_eq_true, iff_true]
    exact ⟨_, rfl, rfl⟩
  | ok issuer =>
    simp only [Except.map, Except.ok.injEq, exists_eq', not_true_eq_false, iff_false]
    rintro ⟨e, failed, configuration⟩
    rw [isConfiguration_of_startWith failed] at configuration
    cases configuration

end Server

namespace Settings

variable {s : Settings}

/-- Accepted settings have a validator just if they name an issuer. -/
theorem exists_validator_iff (accepted : s.validate = .ok ()) :
    (∃ issuer, s.resolvedIssuer = .ok issuer ∧ Text.blank issuer = false ∧
      s.validator = .ok ⟨issuer, s.audience, s.clockSkew⟩) ↔ s.NamesIssuer := by
  rw [← exists_resolvedIssuer_iff]
  constructor
  · rintro ⟨issuer, resolved, -⟩
    exact ⟨issuer, resolved⟩
  · rintro ⟨issuer, resolved⟩
    refine ⟨issuer, resolved, blank_of_resolvedIssuer resolved, ?_⟩
    rw [validator_of_accepted accepted, resolved, Except.map]

/-- Accepted settings always have a fetcher. They have a validator, and a server starts with them or
fails for another reason, just if they name an issuer, as they do unless they give an endpoint. -/
theorem usable_iff_namesIssuer (s : Settings) (accepted : s.validate = .ok ()) :
    (∃ url, s.resolvedEndpoint = .ok url ∧ url.isSecure = true ∧
      Fetcher.ofSettings s = .ok ⟨url, s.fetchTimeout, s.maxDocumentBytes⟩) ∧
    ((∃ issuer, s.resolvedIssuer = .ok issuer ∧ Text.blank issuer = false ∧
      s.validator = .ok ⟨issuer, s.audience, s.clockSkew⟩) ↔ s.NamesIssuer) ∧
    (∀ (around : Surroundings) (l : Launch), l.settings = s → around.hasClient = true →
      ((∃ e, (Server.start around l).result = .error e ∧ e.isConfiguration = true) ↔
        ¬ s.NamesIssuer)) ∧
    (present s.jwksUri = none → s.NamesIssuer) := by
  obtain ⟨url, resolved⟩ := exists_resolvedEndpoint accepted
  refine ⟨⟨url, resolved, isSecure_of_resolvedEndpoint resolved, Fetcher.ofSettings_eq_ok resolved⟩,
    exists_validator_iff accepted, ?_, namesIssuer_of_derived resolved⟩
  rintro around l rfl client
  exact Server.start_isConfiguration_iff accepted client

/-- The name of a tenant is enough. -/
theorem usable_iff_namesIssuer_tenant :
    let s : Settings := { tenant := some "acme", audience := "api" }
    s.validate = .ok () ∧ s.NamesIssuer ∧ ∃ issuer, s.resolvedIssuer = .ok issuer ∧
      Text.blank issuer = false ∧ s.validator = .ok ⟨issuer, "api", .ofSeconds 60⟩ := by
  intro s
  have accepted : s.validate = .ok () := by decide +kernel
  obtain ⟨-, usable, -, derived⟩ := usable_iff_namesIssuer s accepted
  exact ⟨accepted, derived rfl, usable.2 (derived rfl)⟩

/-- An endpoint alone is accepted, and good for no validator. -/
theorem validate_without_issuer :
    let s : Settings :=
      { audience := "api", jwksUri := some "https://login.example.com/.well-known/jwks.json" }
    s.validate = .ok () ∧ s.resolvedIssuer = .error (.missing "issuer or tenant") ∧
      s.validator = .error (.missing "issuer or tenant") := by
  decide +kernel

end Settings

end TokenGate
