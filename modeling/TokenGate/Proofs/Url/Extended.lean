import TokenGate.Proofs.Result
import TokenGate.Proofs.Url.Edge

/-! # URLs with more behind them

What is put behind the text of a URL changes neither its scheme nor its authority, if it begins with
what ends an authority. It belongs to the path unless the text has a query or a fragment already,
which then takes up all of it. -/

namespace TokenGate.Url

open Text

def isSchemeChar (c : Char) : Bool := c.isAlphanum || c == '+' || c == '-' || c == '.'

theorem scheme?_eq_some_iff {cs rest : List Char} {scheme : String} :
    scheme? cs = some (scheme, rest) ↔ ∃ front, cs = front ++ ':' :: rest ∧
      (∀ c ∈ front, isSchemeChar c = true) ∧ (front.head?.filter Char.isAlpha).isSome = true ∧
        scheme = lowerAscii (String.ofList front) := by
  have chars : (fun c : Char => c.isAlphanum || c == '+' || c == '-' || c == '.') = isSchemeChar :=
    rfl
  simp only [scheme?, chars]
  constructor
  · intro read
    split at read
    · next letter behind first colon =>
      obtain ⟨rfl, rfl⟩ := Prod.mk.inj (Option.some.inj read)
      have joined := List.takeWhile_append_dropWhile (p := isSchemeChar) (l := cs)
      rw [colon] at joined
      refine ⟨cs.takeWhile isSchemeChar, joined.symm, fun c => ?_, ?_, rfl⟩
      · exact List.all_eq_true.1 List.all_takeWhile c
      · rw [← joined] at first
        cases front : cs.takeWhile isSchemeChar with
        | nil =>
          rw [front] at first
          obtain ⟨same, alpha⟩ := Option.filter_eq_some_iff.1 first
          obtain rfl := Option.some.inj same
          cases alpha
        | cons c more => simpa [front] using Option.isSome_iff_exists.2 ⟨_, first⟩
    · cases read
  · rintro ⟨front, rfl, named, letter, rfl⟩
    have colon : ∀ c ∈ (':' :: rest).head?, isSchemeChar c = false := by simp [isSchemeChar]
    have taken := takeWhile_append_of_head named colon
    have left := dropWhile_append_of_head named colon
    obtain ⟨c, first⟩ := Option.isSome_iff_exists.1 letter
    have first : (front ++ ':' :: rest).head?.filter Char.isAlpha = some c := by
      cases front with
      | nil => cases first
      | cons d more => exact first
    simp only [taken, left, first]

/-- A scheme that is read of a text stands in front of any colon-less end of it. -/
theorem scheme?_append {r behind rest : List Char} {scheme : String} (absent : ':' ∉ behind)
    (read : scheme? (r ++ behind) = some (scheme, rest)) :
    ∃ r', rest = r' ++ behind ∧ ∀ other, scheme? (r ++ other) = some (scheme, r' ++ other) := by
  obtain ⟨front, joined, named, letter, own⟩ := scheme?_eq_some_iff.1 read
  rcases List.append_eq_append_iff.1 joined with ⟨more, rfl, inside⟩ | ⟨more, rfl, inside⟩
  · exact absurd (inside ▸ List.mem_append_right more (List.mem_cons_self ..)) absent
  · cases more with
    | nil =>
      have colon : ':' ∈ behind := by simpa using congrArg (':' ∈ ·) inside
      exact absurd colon absent
    | cons c r' =>
      obtain ⟨rfl, rfl⟩ := List.cons.inj inside
      refine ⟨r', rfl, fun other => scheme?_eq_some_iff.2 ⟨front, ?_, named, letter, own⟩⟩
      rw [List.append_assoc, List.cons_append]

private theorem endsPath_iff {c : Char} : endsPath c = true ↔ c = '?' ∨ c = '#' := by
  simp [endsPath]

/-- There is a query or a fragment as soon as something ends the path. -/
theorem behind_bare_iff {scheme : String} {kind : SchemeKind} (rest : List Char)
    (front : String × String × Host × Option Nat) :
    (behind scheme kind rest front).query = none ∧
        (behind scheme kind rest front).fragment = none ↔ ∀ c ∈ rest, endsPath c = false := by
  have ended_iff : rest.dropWhile (fun c => !endsPath c) = [] ↔ ∀ c ∈ rest, endsPath c = false := by
    simp [List.dropWhile_eq_nil_iff]
  rw [← ended_iff]
  unfold behind
  have first := List.head?_dropWhile_not (fun c => !endsPath c) rest
  cases split : rest.dropWhile fun c => !endsPath c with
  | nil => simp [queryAndFragment, fragmentOf]
  | cons c more =>
    have ends : endsPath c = true := by simpa [split] using first
    rcases endsPath_iff.1 ends with rfl | rfl <;> simp [queryAndFragment, fragmentOf]

theorem takeWhile_append_of_ended {p : Char → Bool} {rest : List Char}
    (ended : ∃ c ∈ rest, p c = false) (more : List Char) :
    (rest ++ more).takeWhile p = rest.takeWhile p := by
  induction rest with
  | nil => simp at ended
  | cons c rest ih =>
    cases passes : p c with
    | false => simp [passes]
    | true =>
      have ended : ∃ c ∈ rest, p c = false := by simpa [passes] using ended
      simp [passes, ih ended]

/-- What follows the end of a path does not belong to it. -/
theorem path_behind_of_ended {scheme : String} {kind : SchemeKind} {rest : List Char}
    (ended : ∃ c ∈ rest, endsPath c = true) (more : List Char)
    (front : String × String × Host × Option Nat) :
    (behind scheme kind (rest ++ more) front).path = (behind scheme kind rest front).path := by
  have ended : ∃ c ∈ rest, (!endsPath c) = false := by simpa using ended
  simp only [behind, takeWhile_append_of_ended ended more]

/-- The dots before some segments are carried out apart from them. -/
theorem resolveDots_append (kept front : List String) {back : List String}
    (something : back ≠ []) :
    ∃ kept', resolveDots kept (front ++ back) = resolveDots kept' back := by
  induction front generalizing kept with
  | nil => exact ⟨kept, rfl⟩
  | cons segment rest ih =>
    rw [List.cons_append, resolveDots]
    have more : (rest ++ back).isEmpty = false := by simp [something]
    simp only [more, Bool.false_and, Bool.false_eq_true, if_false]
    exact ih _

/-- The well-known place, as it stands behind an issuer. -/
def wellKnownChars : List Char :=
  ['/', '.', 'w', 'e', 'l', 'l', '-', 'k', 'n', 'o', 'w', 'n',
    '/', 'j', 'w', 'k', 's', '.', 'j', 's', 'o', 'n']

theorem ofList_wellKnownChars : String.ofList wellKnownChars = "/.well-known/jwks.json" := rfl

/-- Nothing in the well-known place is stripped, ends a path or divides a host from a port. -/
theorem plain_of_mem_wellKnownChars {c : Char} (member : c ∈ wellKnownChars) :
    isEdge c = false ∧ endsPath c = false ∧ c ≠ ':' := by
  have all : (wellKnownChars.all fun c => !isEdge c && !endsPath c && c != ':') = true := by decide
  simpa [and_assoc] using List.all_eq_true.1 all c member

theorem endsAuthority_of_head_wellKnownChars :
    ∀ c ∈ wellKnownChars.head?, endsAuthority .special c = true := by
  intro c first
  obtain rfl : '/' = c := Option.some.inj first
  rfl

/-- No segment of the place is made of dots, so it stays behind whatever is in front. -/
theorem resolveDots_wellKnown (kept : List String) :
    resolveDots kept [".well-known", "jwks.json"] = kept ++ [".well-known", "jwks.json"] := by
  have first : isDoubleDot ".well-known" = false ∧ isSingleDot ".well-known" = false := by
    cbv
  have second : isDoubleDot "jwks.json" = false ∧ isSingleDot "jwks.json" = false := by
    cbv
  simp [resolveDots, first, second]

/-- A path ends in the well-known place. -/
def AtWellKnown (path : Path) : Prop := ∃ before, path.write = before ++ "/.well-known/jwks.json"

private theorem atWellKnown_pathOf {front : List Char}
    (slashed : ∀ c ∈ front.head?, isSlash .special c = true) :
    AtWellKnown (pathOf .special (front ++ wellKnownChars)) := by
  have shown : String.join ([".well-known", "jwks.json"].map fun s => "/" ++ s) =
      "/.well-known/jwks.json" := by cbv
  cases front with
  | nil =>
    have path : pathOf .special wellKnownChars = .rooted [".well-known", "jwks.json"] := by
      cbv
    refine ⟨"", ?_⟩
    rw [List.nil_append, path, Path.write, shown, String.empty_append]
  | cons c front =>
    have place : (pieces (isSlash .special) wellKnownChars.tail).map (fun piece =>
        String.ofList (Percent.encode Percent.pathSet piece)) = [".well-known", "jwks.json"] := by
      cbv
    have cut := pieces_append_cons (p := isSlash .special) (a := '/') rfl front wellKnownChars.tail
    have split : wellKnownChars = '/' :: wellKnownChars.tail := rfl
    obtain ⟨kept, resolved⟩ := resolveDots_append []
      ((pieces (isSlash .special) front).map fun piece =>
        String.ofList (Percent.encode Percent.pathSet piece))
      (List.cons_ne_nil ".well-known" ["jwks.json"])
    have written : pathOf .special (c :: front ++ wellKnownChars) =
        .rooted (kept ++ [".well-known", "jwks.json"]) := by
      rw [List.cons_append, pathOf, if_pos (slashed c rfl), segments, split, cut, List.map_append,
        place, resolved, resolveDots_wellKnown]
    refine ⟨String.join (kept.map fun s => "/" ++ s), ?_⟩
    rw [written, Path.write, List.map_append, String.join_append, shown]

private theorem scheme_withAuthority {scheme : String} {kind : SchemeKind} {cs : List Char}
    {url : Url} (read : withAuthority scheme kind cs = .ok url) : url.scheme = scheme := by
  obtain ⟨front, -, made⟩ := bind_eq_ok_iff.1 read
  rw [← Except.ok.inj made]

private theorem scheme_fileUrl {cs : List Char} {url : Url} (read : fileUrl cs = .ok url) :
    url.scheme = "file" := by
  unfold fileUrl at read
  dsimp only at read
  split at read <;> obtain ⟨host, -, made⟩ := bind_eq_ok_iff.1 read <;>
    rw [← Except.ok.inj made]

/-- The text of a secure URL begins with a scheme that an authority follows. -/
theorem ofText_secure {s : String} {url : Url} (read : ofText s = .ok url)
    (secure : url.isSecure = true) :
    ∃ scheme rest, scheme? (significant s) = some (scheme, rest) ∧
      SchemeKind.of scheme = .special ∧
        withAuthority scheme .special (rest.dropWhile (isSlash .special)) = .ok url := by
  have named : url.scheme = "https" ∨ url.scheme = "http" := by
    simp only [isSecure, Bool.or_eq_true, beq_iff_eq, Bool.and_eq_true] at secure
    exact secure.imp_right And.left
  have special : SchemeKind.of url.scheme = .special := by
    rcases named with same | same <;> rw [same] <;> rfl
  unfold ofText at read
  split at read
  · cases read
  next scheme rest found =>
  refine ⟨scheme, rest, found, ?_⟩
  split at read
  · next kind => exact ⟨kind, read⟩
  · rw [scheme_fileUrl read] at special
    cases special
  · next _ kind =>
    rw [scheme_withAuthority read, kind] at special
    cases special
  · next kind _ =>
    rw [← Except.ok.inj read, withoutAuthority, kind] at special
    cases special

private theorem ofText_of_scheme {s scheme : String} {rest : List Char}
    (found : scheme? (significant s) = some (scheme, rest))
    (special : SchemeKind.of scheme = .special) :
    ofText s = withAuthority scheme .special (rest.dropWhile (isSlash .special)) := by
  simp only [ofText, found, special]

/-- Behind the blanks in front of a text, what is visible at its end counts. -/
theorem significant_append {front back : List Char} (something : back ≠ [])
    (visible : ∀ c ∈ back, isEdge c = false) :
    significant (String.ofList (front ++ back)) =
      (front.dropWhile isEdge).filter (fun c => !isSkipped c) ++ back := by
  have stripped : (front ++ back).dropWhile isEdge = front.dropWhile isEdge ++ back := by
    rw [List.dropWhile_append]
    split
    · next empty =>
      rw [List.isEmpty_iff.1 empty, List.nil_append]
      exact dropWhile_eq_self fun c first => visible c (List.mem_of_mem_head? first)
    · rfl
  have ended : (front.dropWhile isEdge ++ back).rdropWhile isEdge =
      front.dropWhile isEdge ++ back := by
    refine rdropWhile_eq_self fun c last => ?_
    rw [Option.mem_def, List.getLast?_append_of_ne_nil _ something] at last
    exact visible c (List.mem_of_getLast? last)
  have kept : back.filter (fun c => !isSkipped c) = back :=
    List.filter_eq_self.2 fun c member => by rw [isSkipped_of_visible (visible c member)]; rfl
  rw [significant, String.toList_ofList, stripped, dropTrailing_eq_rdropWhile, ended,
    List.filter_append, kept]

/-- Slashes or the well-known place behind a text: they count behind the same characters, apart from
blanks at the end of the text, which count in front of the place only. -/
theorem significant_slashes_and_place (front : List Char) (k : Nat) : ∃ r t,
    significant (String.ofList (front ++ List.replicate k '/')) = r ++ List.replicate k '/' ∧
      significant (String.ofList (front ++ wellKnownChars)) = r ++ t ++ wellKnownChars ∧
        ∀ c ∈ t, isEdge c = true := by
  have place : significant (String.ofList (front ++ wellKnownChars)) =
      (front.dropWhile isEdge).filter (fun c => !isSkipped c) ++ wellKnownChars := by
    apply significant_append
    · exact List.cons_ne_nil _ _
    · intro c member
      exact (plain_of_mem_wellKnownChars member).1
  cases k with
  | succ k =>
    refine ⟨_, [], significant_append (by simp) (fun c member => ?_), ?_, by simp⟩
    · rw [List.eq_of_mem_replicate member]
      rfl
    · rw [place, List.append_nil]
  | zero =>
    refine ⟨((front.dropWhile isEdge).rdropWhile isEdge).filter fun c => !isSkipped c,
      ((front.dropWhile isEdge).rtakeWhile isEdge).filter fun c => !isSkipped c, ?_, ?_, ?_⟩
    · simp [significant, dropTrailing_eq_rdropWhile]
    · rw [place, ← List.filter_append, List.rdropWhile_append_rtakeWhile]
    · intro c member
      exact List.mem_rtakeWhile_imp (List.mem_of_mem_filter member)

/-- A URL with the scheme and the authority of another one. Its path ends in the well-known place,
or is that of the other one if that goes on behind its path. -/
structure Below (url u : Url) : Prop where
  scheme : url.scheme = u.scheme
  userName : url.userName = u.userName
  password : url.password = u.password
  host : url.host = u.host
  port : url.port = u.port
  bare : u.query = none ∧ u.fragment = none → AtWellKnown url.path
  marked : ¬ (u.query = none ∧ u.fragment = none) → url.path = u.path

private theorem below_behind (scheme : String) (front : String × String × Host × Option Nat)
    {p t : List Char} (k : Nat) (slashed : ∀ c ∈ (p ++ t).head?, endsAuthority .special c = true)
    (edges : ∀ c ∈ t, isEdge c = true) :
    Below (behind scheme .special (p ++ (t ++ wellKnownChars)) front)
      (behind scheme .special (p ++ List.replicate k '/') front) := by
  have edgeless (c) (member : c ∈ t) : endsPath c = false := by
    have quiet := (unmarked_of_isEdge (edges c member)).1
    rw [endsAuthority, Bool.or_eq_false_iff] at quiet
    exact quiet.2
  refine ⟨rfl, rfl, rfl, rfl, rfl, fun bare => ?_, fun marked => ?_⟩
  · rw [behind_bare_iff] at bare
    have plain : ∀ c ∈ p ++ (t ++ wellKnownChars), endsPath c = false := by
      intro c member
      simp only [List.mem_append] at member
      rcases member with inFront | inBlanks | inPlace
      · exact bare c (List.mem_append_left _ inFront)
      · exact edgeless c inBlanks
      · exact (plain_of_mem_wellKnownChars inPlace).2.1
    rw [behind_of_bare plain, ← List.append_assoc]
    refine atWellKnown_pathOf fun c first => ?_
    have ends := slashed c first
    rw [endsAuthority, Bool.or_eq_true] at ends
    refine ends.resolve_right ?_
    have inside : c ∈ p ++ (t ++ wellKnownChars) := by
      rw [← List.append_assoc]
      exact List.mem_append_left _ (List.mem_of_mem_head? first)
    simp [plain c inside]
  · rw [behind_bare_iff] at marked
    have ended : ∃ c ∈ p, endsPath c = true := by
      by_contra none
      apply marked
      intro c member
      rcases List.mem_append.1 member with inFront | slash
      · exact Bool.not_eq_true _ ▸ fun ends => none ⟨c, inFront, ends⟩
      · rw [List.eq_of_mem_replicate slash]
        rfl
    rw [path_behind_of_ended ended, path_behind_of_ended ended]

def strayUrl (scheme : String) : Url where
  scheme := scheme
  userName := ""
  password := ""
  host := some (.domain ".well-known")
  port := none
  path := .rooted ["jwks.json"]
  query := none
  fragment := none

/-- Where no host is named, the place itself is taken for one. -/
theorem withAuthority_place (scheme : String) :
    withAuthority scheme .special wellKnownChars.tail = .ok (strayUrl scheme) := by
  have cut : wellKnownChars.tail = wellKnownChars.tail.take 11 ++ wellKnownChars.drop 12 := rfl
  have something : wellKnownChars.tail.take 11 ≠ [] := List.cons_ne_nil _ _
  have named : (wellKnownChars.tail.take 11).all (fun c =>
      Domain.isNameChar c && !endsAuthority .special c) = true := by decide
  simp only [List.all_eq_true, Bool.and_eq_true, Bool.not_eq_true'] at named
  have plain (c) (member : c ∈ wellKnownChars.tail.take 11) : Domain.isNameChar c = true :=
    (named c member).1
  have wordy : Ipv4.endsInNumber
      (String.ofList ((wellKnownChars.tail.take 11).map Char.toLower)) = false :=
    @Ipv4.endsInNumber_append [] (wellKnownChars.tail.tail.take 10) (by decide) (by decide)
      (by decide) (by cbv)
  have host : Host.ofText (wellKnownChars.tail.take 11) = .ok (.domain ".well-known") :=
    (Host.ofText_eq_ok_iff something plain wordy _).2
      ⟨Domain.isName_of_unmarked plain (by decide), by cbv⟩
  have taken : (wellKnownChars.drop 12).takeWhile (fun c => !endsPath c) =
      wellKnownChars.drop 12 := by decide
  have left : (wellKnownChars.drop 12).dropWhile (fun c => !endsPath c) = [] := by decide
  have path : pathOf .special (wellKnownChars.drop 12) = .rooted ["jwks.json"] := by cbv
  rw [cut, withAuthority_append (fun c member => (named c member).2),
    authority_of_name scheme something plain, host]
  · simp only [Except.map, behind, taken, left, path]
    rfl
  · intro c first
    obtain rfl : '/' = c := Option.some.inj first
    rfl

/-- Blanks between what names a host and the place spoil the host. -/
theorem withAuthority_of_edge (scheme : String) (front : List Char) {t : List Char}
    (inside : ∀ c ∈ front, endsAuthority .special c = false) (something : t ≠ [])
    (edges : ∀ c ∈ t, isEdge c = true) :
    ∃ e, withAuthority scheme .special (front ++ (t ++ wellKnownChars)) = .error e := by
  have whole : ∀ c ∈ front ++ t, endsAuthority .special c = false := by
    intro c member
    exact (List.mem_append.1 member).elim (inside c) fun blank =>
      (unmarked_of_isEdge (edges c blank)).1
  have last : (front ++ t).getLast? = some (t.getLast something) := by
    rw [List.getLast?_append_of_ne_nil _ something, List.getLast?_eq_some_getLast something]
  obtain ⟨e, refused⟩ := authority_of_edge scheme (edges _ (List.getLast_mem something)) last
  rw [← List.append_assoc,
    withAuthority_append whole endsAuthority_of_head_wellKnownChars, refused]
  exact ⟨e, rfl⟩

/-- Behind a host, slashes and the place make URLs of one authority. -/
theorem withAuthority_extended {scheme : String} {cs t : List Char} {url : Url} (k : Nat)
    (edges : ∀ c ∈ t, isEdge c = true)
    (made : withAuthority scheme .special (cs ++ (t ++ wellKnownChars)) = .ok url) :
    ∃ u, withAuthority scheme .special (cs ++ List.replicate k '/') = .ok u ∧ Below url u := by
  obtain ⟨front, p, rfl, inside, ended⟩ : ∃ front p, cs = front ++ p ∧
      (∀ c ∈ front, endsAuthority .special c = false) ∧
        ∀ c ∈ p.head?, endsAuthority .special c = true := by
    refine ⟨_, _, (List.takeWhile_append_dropWhile (p := fun c => !endsAuthority .special c)).symm,
      fun c member => by simpa using List.all_eq_true.1 List.all_takeWhile c member,
      fun c first => ?_⟩
    have stop := List.head?_dropWhile_not (fun c => !endsAuthority .special c) cs
    rw [Option.mem_def] at first
    simpa [first] using stop
  by_cases spoilt : p = [] ∧ t ≠ []
  · obtain ⟨rfl, something⟩ := spoilt
    obtain ⟨e, refused⟩ := withAuthority_of_edge scheme front inside something edges
    rw [List.append_nil, refused] at made
    cases made
  have slashed : ∀ c ∈ (p ++ t).head?, endsAuthority .special c = true := by
    cases p with
    | nil =>
      obtain rfl : t = [] := by simpa using spoilt
      simp
    | cons c p => exact ended
  have longer : ∀ c ∈ (p ++ (t ++ wellKnownChars)).head?, endsAuthority .special c = true := by
    rw [← List.append_assoc, List.head?_append]
    intro c first
    rcases Option.or_eq_some_iff.1 first with own | ⟨-, place⟩
    · exact slashed c own
    · exact endsAuthority_of_head_wellKnownChars c place
  have shorter : ∀ c ∈ (p ++ List.replicate k '/').head?, endsAuthority .special c = true := by
    rw [List.head?_append]
    intro c first
    rcases Option.or_eq_some_iff.1 first with own | ⟨-, slash⟩
    · exact ended c own
    · rw [List.eq_of_mem_replicate (List.mem_of_mem_head? slash)]
      rfl
  rw [List.append_assoc, withAuthority_append inside longer] at made
  rw [List.append_assoc, withAuthority_append inside shorter]
  cases named : authority scheme .special front with
  | error e =>
    rw [named] at made
    cases made
  | ok parts =>
    rw [named] at made
    obtain rfl := Except.ok.inj made
    exact ⟨_, rfl, below_behind scheme parts k slashed edges⟩

/-- A secure URL that is an issuer's text with the well-known place behind it stands below the URL
of the issuer; or the issuer names no host, and the place is the host. -/
theorem ofText_place {front : List Char} {url : Url} (k : Nat)
    (read : ofText (String.ofList (front ++ wellKnownChars)) = .ok url)
    (secure : url.isSecure = true) :
    (∃ u, ofText (String.ofList (front ++ List.replicate k '/')) = .ok u ∧ Below url u) ∨
      ofText (String.ofList (front ++ List.replicate k '/')) = .error .emptyHost ∧
        ∃ scheme, url = strayUrl scheme := by
  obtain ⟨r, t, own, longer, edges⟩ := significant_slashes_and_place front k
  obtain ⟨scheme, rest, found, special, made⟩ := ofText_secure read secure
  rw [longer, List.append_assoc] at found
  have absent : ':' ∉ t ++ wellKnownChars := by
    intro member
    rcases List.mem_append.1 member with inBlanks | inPlace
    · exact (unmarked_of_isEdge (edges _ inBlanks)).2.1 rfl
    · exact (plain_of_mem_wellKnownChars inPlace).2.2 rfl
  obtain ⟨r', rfl, always⟩ := scheme?_append absent found
  have issued := always (List.replicate k '/')
  rw [← own] at issued
  rw [ofText_of_scheme issued special]
  rw [List.dropWhile_append] at made ⊢
  split at made
  · next empty =>
    rw [if_pos empty]
    have none : (List.replicate k '/').dropWhile (isSlash .special) = [] :=
      List.dropWhile_eq_nil_iff.2 fun c member => by rw [List.eq_of_mem_replicate member]; rfl
    refine .inr ⟨by rw [none]; rfl, scheme, ?_⟩
    cases t with
    | nil => exact Except.ok.inj (made.symm.trans (withAuthority_place scheme))
    | cons c t =>
      have quiet := (unmarked_of_isEdge (edges c (List.mem_cons_self ..))).1
      rw [endsAuthority, Bool.or_eq_false_iff] at quiet
      rw [List.cons_append, List.dropWhile_cons_of_neg (by simp [quiet.1])] at made
      obtain ⟨e, refused⟩ := withAuthority_of_edge scheme [] (by simp) (List.cons_ne_nil c t) edges
      cases refused.symm.trans made
  · next something =>
    rw [if_neg something]
    exact .inl (withAuthority_extended k edges made)

end TokenGate.Url
