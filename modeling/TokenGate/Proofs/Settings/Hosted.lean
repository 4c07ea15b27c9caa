import TokenGate.Proofs.Settings.Usable
import TokenGate.Proofs.Url.Web

/-! # Endpoints of hosted tenants

A tenant's name becomes part of the text of a URL. No name that is allowed reaches beyond the host:
the endpoint is the well-known place on the host with the name in lower case, and differs between
tenants in its host only. -/

namespace TokenGate.Settings

/-- The host of a tenant, in the case in which its name is given. -/
def hostChars (name : String) : List Char := name.toList ++ ".auth0.com".toList

/-- The endpoint of a tenant. -/
def hostedUrl (name : String) : Url where
  scheme := "https"
  userName := ""
  password := ""
  host := some (.domain (Text.lowerAscii name ++ ".auth0.com"))
  port := none
  path := .rooted [".well-known", "jwks.json"]
  query := none
  fragment := none

private theorem wellKnown_hostedIssuer (name : String) :
    wellKnown (hostedIssuer name) = String.ofList
      ("https://".toList ++ hostChars name ++ '/' :: ".well-known/jwks.json".toList) := by
  have whole : (hostedIssuer name).toList = ("https://".toList ++ hostChars name) ++ ['/'] := by
    simp [hostedIssuer, hostChars]
  have unslashed : Text.dropTrailing (· == '/') (hostedIssuer name).toList =
      "https://".toList ++ hostChars name := by
    rw [whole, Text.dropTrailing_eq_rdropWhile, List.rdropWhile_concat_pos _ _ _ rfl]
    have ends : "https://".toList ++ hostChars name =
        ("https://".toList ++ (name.toList ++ ".auth0.co".toList)) ++ ['m'] := by simp [hostChars]
    refine Text.rdropWhile_eq_self fun c last => ?_
    rw [ends, List.getLast?_concat] at last
    obtain rfl := Option.some.inj last
    rfl
  rw [wellKnown, unslashed, ← String.toList_inj]
  simp

private theorem toLower_hostChars (name : String) :
    String.ofList ((hostChars name).map Char.toLower) = Text.lowerAscii name ++ ".auth0.com" := by
  rw [← String.toList_inj, String.toList_ofList, String.toList_append, Text.toList_lowerAscii,
    hostChars, List.map_append]
  rfl

/-- The host of a tenant needs no encoding. -/
theorem isNameChar_of_mem_hostChars {name : String}
    (allowed : name.toList.all isTenantChar = true) {c : Char} (member : c ∈ hostChars name) :
    Domain.isNameChar c = true := by
  rcases List.mem_append.1 member with inName | fixed
  · exact List.all_eq_true.1 allowed c inName
  · exact List.all_eq_true.1 (by decide : ".auth0.com".toList.all Domain.isNameChar = true) c fixed

private theorem endsInNumber_hostChars (name : String) :
    Ipv4.endsInNumber (String.ofList ((hostChars name).map Char.toLower)) = false := by
  have cut : (hostChars name).map Char.toLower =
      ((name.toList ++ ".auth0".toList).map Char.toLower) ++ '.' :: "com".toList := by
    simp [hostChars]
  rw [cut]
  exact Ipv4.endsInNumber_append (by decide) (by decide) (by decide) (by cbv)

private theorem write_wellKnown :
    (Url.Path.rooted [".well-known", "jwks.json"]).write = "/.well-known/jwks.json" := by
  cbv

/-- The endpoint's text of a tenant spells the tenant's endpoint and nothing else. -/
theorem endpointUrl_hosted_iff {name : String} (allowed : name.toList.all isTenantChar = true)
    (url : Url) : endpointUrl (wellKnown (hostedIssuer name)) = .ok url ↔
      Domain.IsName ((hostChars name).map Char.toLower) ∧ url = hostedUrl name := by
  have something : hostChars name ≠ [] := by simp [hostChars]
  have named : ∀ c ∈ hostChars name, Domain.isNameChar c = true := fun c =>
    isNameChar_of_mem_hostChars allowed
  have visible : ∀ c ∈ ".well-known/jwks.json".toList,
      Url.isEdge c = false ∧ Url.endsPath c = false := by simp [Url.isEdge, Url.endsPath]
  have hosts := Host.ofText_eq_ok_iff something named (endsInNumber_hostChars name)
  rw [toLower_hostChars] at hosts
  have path : Url.pathOf .special ('/' :: ".well-known/jwks.json".toList) =
      .rooted [".well-known", "jwks.json"] := by cbv
  rw [endpointUrl, wellKnown_hostedIssuer, Url.ofText_https something named visible, path]
  cases read : Host.ofText (hostChars name) with
  | error e =>
    have refused : ¬ Domain.IsName ((hostChars name).map Char.toLower) := fun isName => by
      have given := (hosts _).2 ⟨isName, rfl⟩
      rw [read] at given
      cases given
    simp [Except.map, refused]
  | ok host =>
    obtain ⟨isName, rfl⟩ := (hosts host).1 read
    simp only [Except.map, Url.isSecure, beq_self_eq_true, Bool.true_or, if_true, isName, true_and,
      Except.ok.injEq]
    exact eq_comm

/-- A name without punycode stays one on its host. -/
theorem isName_hostChars {name : String} (allowed : name.toList.all isTenantChar = true)
    (unmarked : ∀ label ∈ Domain.labels (Text.lowerAscii name).toList,
      ¬ Domain.punycodeMark <+: label) :
    Domain.IsName ((hostChars name).map Char.toLower) := by
  refine Domain.isName_of_unmarked (fun c => isNameChar_of_mem_hostChars allowed) ?_
  have cut : (hostChars name).map Char.toLower =
      (Text.lowerAscii name).toList ++ '.' :: "auth0.com".toList := by
    rw [Text.toList_lowerAscii]
    simp [hostChars]
  have parts := Text.pieces_append_cons (p := (· == '.')) (beq_self_eq_true '.')
    (Text.lowerAscii name).toList "auth0.com".toList
  intro label member
  rw [cut, Domain.labels, parts] at member
  rcases List.mem_append.1 member with inName | fixed
  · exact unmarked label inName
  · have hosted : ∀ label ∈ Text.pieces (· == '.') "auth0.com".toList,
        ¬ Domain.punycodeMark <+: label := by decide
    exact hosted label fixed

section

variable {s : Settings}

theorem present_eq_none_iff {text : Option String} :
    present text = none ↔ ∀ t, text = some t → Text.blank t = true := by
  cases text <;> simp [present]

private theorem tenantIssuer_of_forbidden {tenant : String} (given : s.tenant = some tenant)
    (forbidden : (Text.trim tenant).toList.all isTenantChar = false) :
    s.tenantIssuer = .error (.invalid "tenant"
      (Text.quoted (Text.trim tenant) ++ " is not a valid tenant name")) := by
  have something : Text.trim tenant ≠ "" := by
    intro nothing
    rw [nothing] at forbidden
    cases forbidden
  simp only [tenantIssuer, given, Option.map_some, Option.filter_some, bne_iff_ne]
  rw [if_pos something]
  simp only [forbidden, Bool.false_eq_true, if_false]

/-- Without an issuer the tenant stands for one. -/
theorem resolvedIssuer_of_blank
    (unissued : ∀ issuer, s.issuer = some issuer → Text.blank issuer = true) :
    s.resolvedIssuer = s.tenantIssuer := by
  rw [resolvedIssuer, present_eq_none_iff.2 unissued]

/-- Without an issuer and an endpoint, the endpoint is that of the tenant. -/
theorem resolvedEndpoint_of_blank
    (unissued : ∀ issuer, s.issuer = some issuer → Text.blank issuer = true)
    (underived : ∀ uri, s.jwksUri = some uri → Text.blank uri = true) :
    s.resolvedEndpoint = (s.tenantIssuer.map wellKnown).bind endpointUrl := by
  rw [resolvedEndpoint, endpointText, present_eq_none_iff.2 underived,
    resolvedIssuer_of_blank unissued]

/-- Settings without an issuer or an endpoint of their own have the endpoint of their tenant or
none. -/
theorem resolvedEndpoint_eq_ok_iff
    (unissued : ∀ issuer, s.issuer = some issuer → Text.blank issuer = true)
    (underived : ∀ uri, s.jwksUri = some uri → Text.blank uri = true) (url : Url) :
    s.resolvedEndpoint = .ok url ↔ ∃ tenant, s.tenant = some tenant ∧ Text.trim tenant ≠ "" ∧
      (Text.trim tenant).toList.all isTenantChar = true ∧
        Domain.IsName ((hostChars (Text.trim tenant)).map Char.toLower) ∧
          url = hostedUrl (Text.trim tenant) := by
  rw [resolvedEndpoint_of_blank unissued underived]
  constructor
  · intro resolved
    cases issued : s.tenantIssuer with
    | error e => simp [issued, Except.map, Except.bind] at resolved
    | ok issuer =>
      obtain ⟨tenant, given, something, allowed, rfl⟩ := tenantIssuer_eq_ok_iff.1 issued
      simp only [issued, Except.map, Except.bind] at resolved
      exact ⟨tenant, given, something, allowed, (endpointUrl_hosted_iff allowed url).1 resolved⟩
  · rintro ⟨tenant, given, something, allowed, named⟩
    rw [tenantIssuer_eq_ok_iff.2 ⟨tenant, given, something, allowed, rfl⟩, Except.map, Except.bind]
    exact (endpointUrl_hosted_iff allowed url).2 named

end

/-- The endpoint of a hosted tenant, if there is one, is the well-known place on the host with the
tenant's name in lower case, and nothing of the name stands elsewhere in it. A name with any other
character than letters, digits, hyphens and points is refused. A name without punycode has an
endpoint. -/
theorem hosted_endpoint_confined (s : Settings)
    (unissued : ∀ issuer, s.issuer = some issuer → Text.blank issuer = true)
    (underived : ∀ uri, s.jwksUri = some uri → Text.blank uri = true) :
    (∀ url, s.resolvedEndpoint = .ok url → ∃ tenant, s.tenant = some tenant ∧
      let name := Text.trim tenant
      s.resolvedIssuer = .ok ("https://" ++ name ++ ".auth0.com/") ∧
      url.scheme = "https" ∧ url.userName = "" ∧ url.password = "" ∧ url.port = none ∧
      url.query = none ∧ url.fragment = none ∧ url.path.write = "/.well-known/jwks.json" ∧
      url.host = some (.domain (Text.lowerAscii name ++ ".auth0.com"))) ∧
    (∀ tenant c, s.tenant = some tenant → c ∈ (Text.trim tenant).toList →
      c.isAlphanum = false → c ≠ '-' → c ≠ '.' →
        let refusal := SettingsError.invalid "tenant"
          (Text.quoted (Text.trim tenant) ++ " is not a valid tenant name")
        s.resolvedIssuer = .error refusal ∧ s.resolvedEndpoint = .error refusal) ∧
    ∀ tenant, s.tenant = some tenant → Text.trim tenant ≠ "" →
      (∀ c ∈ (Text.trim tenant).toList, c.isAlphanum = true ∨ c = '-' ∨ c = '.') →
      (∀ label ∈ Text.splitAt '.' (Text.lowerAscii (Text.trim tenant)),
        ¬ "xn--".toList <+: label.toList) →
        ∃ url, s.resolvedEndpoint = .ok url := by
  have issued : s.resolvedIssuer = s.tenantIssuer := resolvedIssuer_of_blank unissued
  have endpoint := resolvedEndpoint_eq_ok_iff unissued underived
  refine ⟨fun url resolved => ?_, fun tenant c given member solid unhyphened unpointed => ?_,
    fun tenant given something allowed unmarked => ?_⟩
  · obtain ⟨tenant, given, something, allowed, -, rfl⟩ := (endpoint url).1 resolved
    have hosted := tenantIssuer_eq_ok_iff.2 ⟨tenant, given, something, allowed, rfl⟩
    exact ⟨tenant, given, issued.trans hosted, rfl, rfl, rfl, rfl, rfl, rfl, write_wellKnown, rfl⟩
  · have forbidden : (Text.trim tenant).toList.all isTenantChar = false :=
      List.all_eq_false.2 ⟨c, member, by simp [isTenantChar, solid, unhyphened, unpointed]⟩
    have refused := tenantIssuer_of_forbidden given forbidden
    refine ⟨issued.trans refused, ?_⟩
    rw [resolvedEndpoint_of_blank unissued underived, refused]
    rfl
  · have allowed : (Text.trim tenant).toList.all isTenantChar = true :=
      List.all_eq_true.2 fun c member => by simpa [isTenantChar, or_assoc] using allowed c member
    have named := isName_hostChars allowed fun label member => by
      have unmarked := unmarked (String.ofList label) (List.mem_map_of_mem member)
      rwa [String.toList_ofList (l := label)] at unmarked
    exact ⟨_, (endpoint _).2 ⟨tenant, given, something, allowed, named, rfl⟩⟩

/-- A tenant with capital letters, a point and blanks around it. -/
theorem hosted_endpoint_confined_capitals :
    let s : Settings := { tenant := some " Acme.EU ", issuer := some " " }
    ∃ url, s.resolvedEndpoint = .ok url ∧ s.resolvedIssuer = .ok "https://Acme.EU.auth0.com/" ∧
      url.host = some (.domain "acme.eu.auth0.com") := by
  intro s
  have name : Text.trim " Acme.EU " = "Acme.EU" := by decide +kernel
  have lower : Text.lowerAscii "Acme.EU" ++ ".auth0.com" = "acme.eu.auth0.com" := by decide +kernel
  obtain ⟨confined, -, exists_url⟩ := hosted_endpoint_confined s
    (fun issuer given => by obtain rfl := Option.some.inj given; decide +kernel)
    (fun uri given => by cases given)
  obtain ⟨url, resolved⟩ := exists_url " Acme.EU " rfl (by rw [name]; decide)
    (by simp [name, Char.isAlphanum, Char.isAlpha]) (by rw [name]; decide +kernel)
  obtain ⟨tenant, given, issued, -, -, -, -, -, -, -, host⟩ := confined url resolved
  obtain rfl := Option.some.inj given
  rw [name] at issued host
  exact ⟨url, resolved, issued, host.trans (by rw [lower])⟩

end TokenGate.Settings
