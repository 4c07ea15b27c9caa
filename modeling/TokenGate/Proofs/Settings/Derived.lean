import TokenGate.Proofs.Settings.Hosted
import TokenGate.Proofs.Url.Extended

/-! # Endpoints of issuers

The endpoint of an issuer is its text with the well-known place behind it, read again. That is a URL
of the issuer's host, at the well-known place below it, if the issuer is a URL without a query and a
fragment. A query or a fragment takes the place up, and the path stays the issuer's. An issuer
without a host gets the place for one. -/

namespace TokenGate.Settings

open Url

variable {s : Settings} {issuer : String} {url : Url}

private theorem exists_slashes (issuer : String) : ∃ front k,
    issuer = String.ofList (front ++ List.replicate k '/') ∧
      wellKnown issuer = String.ofList (front ++ wellKnownChars) := by
  refine ⟨issuer.toList.rdropWhile (· == '/'), (issuer.toList.rtakeWhile (· == '/')).length, ?_, ?_⟩
  · have slashes : issuer.toList.rtakeWhile (· == '/') =
        List.replicate (issuer.toList.rtakeWhile (· == '/')).length '/' :=
      List.eq_replicate_of_mem fun c member => by simpa using List.mem_rtakeWhile_imp member
    rw [← slashes, List.rdropWhile_append_rtakeWhile, String.ofList_toList]
  · rw [wellKnown, Text.dropTrailing_eq_rdropWhile, String.ofList_append, ofList_wellKnownChars]

private theorem endpointUrl_of_issuer (given : s.issuer = some issuer)
    (shown : Text.blank issuer = false)
    (underived : ∀ uri, s.jwksUri = some uri → Text.blank uri = true)
    (resolved : s.resolvedEndpoint = .ok url) : endpointUrl (wellKnown issuer) = .ok url := by
  have issued : s.resolvedIssuer = .ok issuer := by
    rw [resolvedIssuer, present_eq_some_iff.2 ⟨given, shown⟩]
  simpa only [resolvedEndpoint, endpointText, present_eq_none_iff.2 underived, issued, Except.map,
    Except.bind] using resolved

private theorem ofText_of_endpointUrl {text : String} (made : endpointUrl text = .ok url) :
    Url.ofText text = .ok url := by
  unfold endpointUrl at made
  split at made
  · cases made
  · next read =>
    split at made
    · exact Except.ok.inj made ▸ read
    · cases made

/-- The endpoint of an issuer stands below it, or the issuer names no host, and the first name of
the well-known place is the host. -/
theorem below_issuer (made : endpointUrl (wellKnown issuer) = .ok url) :
    (∃ u, Url.ofText issuer = .ok u ∧ Below url u) ∨
      Url.ofText issuer = .error .emptyHost ∧ url.scheme = "https" ∧
        url.host = some (.domain ".well-known") ∧ url.path = .rooted ["jwks.json"] := by
  have secure := isSecure_of_endpointUrl made
  have read := ofText_of_endpointUrl made
  obtain ⟨front, k, own, place⟩ := exists_slashes issuer
  rw [place] at read
  rw [own]
  refine (ofText_place k read secure).imp_right ?_
  rintro ⟨unhosted, scheme, rfl⟩
  have remote : Host.isLoopback (.domain ".well-known") = false := by cbv
  have https : scheme = "https" := by simpa [Url.isSecure, strayUrl, remote] using secure
  exact ⟨unhosted, https, rfl, rfl⟩

/-- Where the endpoint of an issuer lies. Of an issuer that is a URL it has the scheme, the
credentials, the host and the port; its path ends in the well-known place unless the issuer has a
query or a fragment, and else it is the issuer's. An issuer that is no URL lacks a host, and the
endpoint is on a host of the name `.well-known`. -/
theorem derived_endpoint (s : Settings) (issuer : String) (url : Url)
    (given : s.issuer = some issuer) (shown : Text.blank issuer = false)
    (underived : ∀ uri, s.jwksUri = some uri → Text.blank uri = true)
    (resolved : s.resolvedEndpoint = .ok url) :
    (∀ u, Url.ofText issuer = .ok u →
      (url.scheme = u.scheme ∧ url.userName = u.userName ∧ url.password = u.password ∧
        url.host = u.host ∧ url.port = u.port) ∧
      (u.query = none ∧ u.fragment = none → AtWellKnown url.path) ∧
      (¬ (u.query = none ∧ u.fragment = none) → url.path = u.path)) ∧
    (∀ e, Url.ofText issuer = .error e → e = .emptyHost ∧ url.scheme = "https" ∧
      url.host = some (.domain ".well-known") ∧ url.path.write = "/jwks.json") ∧
    ((∃ u, Url.ofText issuer = .ok u ∧ url.scheme = u.scheme ∧ url.host = u.host ∧
        url.port = u.port ∧ AtWellKnown url.path) ↔
      ∃ u, Url.ofText issuer = .ok u ∧
        ((u.query = none ∧ u.fragment = none) ∨ AtWellKnown u.path)) := by
  have made := endpointUrl_of_issuer given shown underived resolved
  rcases below_issuer made with ⟨u, read, below⟩ | ⟨unhosted, https, host, path⟩
  · have same (u') (read' : Url.ofText issuer = .ok u') : u' = u :=
      Except.ok.inj (read'.symm.trans read)
    refine ⟨fun u' read' => ?_, fun e failed => ?_, ?_, ?_⟩
    · obtain rfl := same u' read'
      exact ⟨⟨below.scheme, below.userName, below.password, below.host, below.port⟩, below.bare,
        below.marked⟩
    · cases failed.symm.trans read
    · rintro ⟨u', read', -, -, -, ends⟩
      obtain rfl := same u' read'
      refine ⟨u', read', ?_⟩
      by_cases bare : u'.query = none ∧ u'.fragment = none
      · exact .inl bare
      · exact .inr (below.marked bare ▸ ends)
    · rintro ⟨u', read', either⟩
      obtain rfl := same u' read'
      refine ⟨u', read', below.scheme, below.host, below.port, ?_⟩
      by_cases bare : u'.query = none ∧ u'.fragment = none
      · exact below.bare bare
      · rw [below.marked bare]
        exact either.resolve_left bare
  · have unread (u) : Url.ofText issuer ≠ .ok u := by simp [unhosted]
    refine ⟨fun u read => absurd read (unread u), fun e failed => ?_, ?_, ?_⟩
    · obtain rfl := Except.error.inj (unhosted.symm.trans failed)
      refine ⟨rfl, https, host, ?_⟩
      rw [path]
      cbv
    · rintro ⟨u, read, -⟩
      exact absurd read (unread u)
    · rintro ⟨u, read, -⟩
      exact absurd read (unread u)

/-- An issuer with a path and slashes at its end. -/
theorem derived_endpoint_with_path :
    let s : Settings := { issuer := some "https://login.example.com/acme//" }
    ∃ url, s.resolvedEndpoint = .ok url ∧ url.host = some (.domain "login.example.com") ∧
      AtWellKnown url.path := by
  intro s
  have resolved : s.resolvedEndpoint = .ok ⟨"https", "", "", some (.domain "login.example.com"),
      none, .rooted ["acme", ".well-known", "jwks.json"], none, none⟩ := by decide +kernel
  have read : Url.ofText "https://login.example.com/acme//" = .ok ⟨"https", "", "",
      some (.domain "login.example.com"), none, .rooted ["acme", "", ""], none, none⟩ := by
    decide +kernel
  obtain ⟨ofUrl, -⟩ := derived_endpoint s _ _ rfl (by decide +kernel) nofun resolved
  obtain ⟨⟨-, -, -, host, -⟩, bare, -⟩ := ofUrl _ read
  exact ⟨_, resolved, host, bare ⟨rfl, rfl⟩⟩

/-- An issuer with a query, whose endpoint has the well-known place in the query and no path; and
one without a host, whose endpoint is on the host `.well-known`. -/
theorem endpoint_off_issuer :
    (let s : Settings := { issuer := some "https://login.example.com/?tenant=acme" }
      ∃ url, s.resolvedEndpoint = .ok url ∧ url.path.write = "/" ∧
        url.query = some "tenant=acme/.well-known/jwks.json" ∧ ¬ AtWellKnown url.path) ∧
    let s : Settings := { issuer := some "https://" }
    ∃ url, s.resolvedEndpoint = .ok url ∧ url.host = some (.domain ".well-known") ∧
      ∀ u, Url.ofText "https://" ≠ .ok u := by
  refine ⟨⟨⟨"https", "", "", some (.domain "login.example.com"), none, .rooted [""],
    some "tenant=acme/.well-known/jwks.json", none⟩, by decide +kernel, by decide +kernel, rfl, ?_⟩,
    ⟨"https", "", "", some (.domain ".well-known"), none, .rooted ["jwks.json"], none, none⟩,
    by decide +kernel, rfl, ?_⟩
  · rintro ⟨before, ends⟩
    have short : (Url.Path.rooted [""]).write.length = 1 := by decide +kernel
    rw [ends, String.length_append] at short
    have long : "/.well-known/jwks.json".length = 22 := by decide +kernel
    omega
  · have unread : Url.ofText "https://" = .error .emptyHost := by decide +kernel
    simp [unread]

end TokenGate.Settings
