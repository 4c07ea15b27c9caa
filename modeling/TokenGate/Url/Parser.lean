import TokenGate.Url.Basic

/-! # Reading URLs

A URL is read from left to right: scheme, authority, path, query, fragment. Special schemes have a
host always, take backslashes for slashes, and leave out the port that is their own. Blanks and
controls around a URL, and tabs and line ends in it, do not count. -/

namespace TokenGate.Url

open TokenGate.Text

/-- How a scheme treats what follows it. -/
inductive SchemeKind where
  | special
  | file
  | plain
  deriving DecidableEq, Repr

def SchemeKind.of (scheme : String) : SchemeKind :=
  if ["http", "https", "ws", "wss", "ftp"].contains scheme then .special
  else if scheme == "file" then .file
  else .plain

/-- The port that a scheme means without naming one. -/
def defaultPort? (scheme : String) : Option Nat :=
  if scheme == "http" || scheme == "ws" then some 80
  else if scheme == "https" || scheme == "wss" then some 443
  else if scheme == "ftp" then some 21
  else none

/-- A blank or control. -/
def isEdge (c : Char) : Bool := c.toNat ≤ 0x20

/-- A tab or line end. -/
def isSkipped (c : Char) : Bool := c == '\t' || c == '\n' || c == '\r'

/-- The characters of a text that count. -/
def significant (s : String) : List Char :=
  (dropTrailing isEdge (s.toList.dropWhile isEdge)).filter fun c => !isSkipped c

def isSlash (kind : SchemeKind) (c : Char) : Bool :=
  c == '/' || (c == '\\' && kind != .plain)

/-- The path and everything in front of it end here. -/
def endsPath (c : Char) : Bool := c == '?' || c == '#'

/-- The authority ends here. -/
def endsAuthority (kind : SchemeKind) (c : Char) : Bool := isSlash kind c || endsPath c

/-- The scheme, in lower case, and what follows its colon. -/
def scheme? (cs : List Char) : Option (String × List Char) :=
  let isSchemeChar (c : Char) : Bool := c.isAlphanum || c == '+' || c == '-' || c == '.'
  match cs.head?.filter Char.isAlpha, cs.dropWhile isSchemeChar with
  | some _, ':' :: rest => some (lowerAscii (String.ofList (cs.takeWhile isSchemeChar)), rest)
  | _, _ => none

/-- The fragment of a rest that begins with its mark. -/
def fragmentOf : List Char → Option String
  | '#' :: rest => some (String.ofList (Percent.encode Percent.fragmentSet rest))
  | _ => none

/-- The query and fragment of a rest. -/
def queryAndFragment (kind : SchemeKind) (cs : List Char) : Option String × Option String :=
  match cs with
  | '?' :: rest =>
    let set := if kind == .plain then Percent.querySet else Percent.specialQuerySet
    let query := rest.takeWhile (· != '#')
    (some (String.ofList (Percent.encode set query)), fragmentOf (rest.dropWhile (· != '#')))
  | _ => (none, fragmentOf cs)

def isSingleDot (segment : String) : Bool :=
  [".", "%2e"].contains (lowerAscii segment)

def isDoubleDot (segment : String) : Bool :=
  ["..", ".%2e", "%2e.", "%2e%2e"].contains (lowerAscii segment)

/-- Segments with the dots among them carried out, behind those already kept. Dots at the end leave
an empty segment, so the path still ends with a slash. -/
def resolveDots (kept : List String) : List String → List String
  | [] => kept
  | segment :: rest =>
    let kept' :=
      if isDoubleDot segment then kept.dropLast
      else if isSingleDot segment then kept
      else kept ++ [segment]
    if rest.isEmpty && (isDoubleDot segment || isSingleDot segment) then kept' ++ [""]
    else resolveDots kept' rest

def segments (kind : SchemeKind) (cs : List Char) : List String :=
  resolveDots [] ((pieces (isSlash kind) cs).map fun piece =>
    String.ofList (Percent.encode Percent.pathSet piece))

/-- The path behind an authority. Special schemes have one always. -/
def pathOf (kind : SchemeKind) (cs : List Char) : Path :=
  match cs with
  | [] => .rooted (if kind == .plain then [] else [""])
  | c :: rest => .rooted (segments kind (if isSlash kind c then rest else cs))

/-- The characters before the last member that satisfies `p`, if there is one, and those behind. -/
def splitLast (p : Char → Bool) (cs : List Char) : Option (List Char) × List Char :=
  let behind := (cs.reverse.takeWhile fun c => !p c).reverse
  if cs.any p then (some (cs.take (cs.length - behind.length - 1)), behind) else (none, cs)

/-- User name and password. -/
def userInfo (cs : List Char) : String × String :=
  let encoded (part : List Char) : String := String.ofList (Percent.encode Percent.userInfoSet part)
  (encoded (cs.takeWhile (· != ':')), encoded ((cs.dropWhile (· != ':')).drop 1))

/-- Host and port apart: the first colon outside brackets divides them. -/
def hostAndPort : (inside : Bool) → List Char → List Char × Option (List Char)
  | _, [] => ([], none)
  | inside, c :: rest =>
    if c == ':' && !inside then ([], some rest)
    else
      let inside' := if c == '[' then true else if c == ']' then false else inside
      let (host, port) := hostAndPort inside' rest
      (c :: host, port)

def portOf (scheme : String) (cs : List Char) : Except Error (Option Nat) :=
  if cs.isEmpty then .ok none
  else
    match (if cs.all Char.isDigit then numeral? 10 cs else none) with
    | none => .error .invalidPort
    | some port =>
      if 65535 < port then .error .invalidPort
      else .ok (if defaultPort? scheme == some port then none else some port)

/-- An authority: user name, password, host and port. Credentials need a host. -/
def authority (scheme : String) (kind : SchemeKind) (cs : List Char) :
    Except Error (String × String × Host × Option Nat) := do
  let (credentials, rest) := splitLast (· == '@') cs
  let (userName, password) := userInfo (credentials.getD [])
  let (hostText, portText) := hostAndPort false rest
  if hostText.isEmpty && (kind != .plain || portText.isSome || credentials.isSome) then
    throw .emptyHost
  let host ← if kind == .plain then Host.ofPlainText hostText else Host.ofText hostText
  let port ← portOf scheme (portText.getD [])
  return (userName, password, host, port)

/-- A URL whose authority begins here. -/
def withAuthority (scheme : String) (kind : SchemeKind) (cs : List Char) : Except Error Url := do
  let (userName, password, host, port) ←
    authority scheme kind (cs.takeWhile fun c => !endsAuthority kind c)
  let rest := cs.dropWhile fun c => !endsAuthority kind c
  let path := rest.takeWhile fun c => !endsPath c
  let (query, fragment) := queryAndFragment kind (rest.dropWhile fun c => !endsPath c)
  return ⟨scheme, userName, password, some host, port, pathOf kind path, query, fragment⟩

/-- A letter and a colon or bar, which name a drive. -/
def isDriveLetter : List Char → Bool
  | [letter, mark] => letter.isAlpha && (mark == ':' || mark == '|')
  | _ => false

/-- A file's host may be missing, and the machine itself is left out. -/
def fileHost (cs : List Char) : Except Error Host :=
  if cs.isEmpty then .ok (.domain "")
  else (Host.ofText cs).map fun host => if host == .domain "localhost" then .domain "" else host

/-- A URL of a file, from behind the colon on. -/
def fileUrl (cs : List Char) : Except Error Url := do
  let slashes := (cs.takeWhile (isSlash .file)).length
  let behind := cs.drop 2
  let hostText := behind.takeWhile fun c => !endsAuthority .file c
  let hosted := 2 ≤ slashes && !isDriveLetter hostText
  let host ← if hosted then fileHost hostText else .ok (.domain "")
  let rest :=
    if hosted then behind.dropWhile fun c => !endsAuthority .file c
    else if 2 ≤ slashes then behind else cs
  let path := rest.takeWhile fun c => !endsPath c
  let (query, fragment) := queryAndFragment .file (rest.dropWhile fun c => !endsPath c)
  return ⟨"file", "", "", some host, none, pathOf .file path, query, fragment⟩

/-- A URL without an authority. -/
def withoutAuthority (scheme : String) (cs : List Char) : Url :=
  let path := cs.takeWhile fun c => !endsPath c
  let (query, fragment) := queryAndFragment .plain (cs.dropWhile fun c => !endsPath c)
  let path :=
    match path with
    | '/' :: rest => .rooted (segments .plain rest)
    | _ => .rootless (String.ofList (Percent.encode Percent.controlSet path))
  ⟨scheme, "", "", none, none, path, query, fragment⟩

/-- The URL that a text spells. -/
def ofText (s : String) : Except Error Url :=
  match scheme? (significant s) with
  | none => .error .relativeWithoutBase
  | some (scheme, rest) =>
    match SchemeKind.of scheme, rest with
    | .special, _ => withAuthority scheme .special (rest.dropWhile (isSlash .special))
    | .file, _ => fileUrl rest
    | .plain, '/' :: '/' :: rest' => withAuthority scheme .plain rest'
    | .plain, _ => .ok (withoutAuthority scheme rest)

end TokenGate.Url
