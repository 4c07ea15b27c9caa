import TokenGate.Http.Message

/-! # Request targets

A target is a path with an optional query, an absolute URL, an authority alone, or an asterisk. Only
its path matters to the service; where it has none the path is empty. -/

namespace TokenGate.Http.Target

def isPathChar (c : Char) : Bool :=
  let n := c.toNat
  n == 0x21 || n == 0x22 || (0x24 ≤ n && n ≤ 0x3B) || n == 0x3D || (0x40 ≤ n && n ≤ 0x5F)
    || (0x61 ≤ n && n ≤ 0x7F) || 0x80 ≤ n

def isQueryChar (c : Char) : Bool :=
  let n := c.toNat
  n == 0x21 || (0x24 ≤ n && n ≤ 0x3B) || n == 0x3D || 0x3F ≤ n

/-- The path of a text that begins with one; a query and a fragment may follow. -/
def pathOf? (cs : List Char) : Option (List Char) :=
  let path := cs.takeWhile fun c => c != '?' && c != '#'
  let rest := cs.dropWhile fun c => c != '?' && c != '#'
  let query := if rest.head? == some '?' then (rest.drop 1).takeWhile (· != '#') else []
  if path.all isPathChar && query.all isQueryChar then
    some (if path.isEmpty then ['/'] else path)
  else none

def isAuthorityChar (c : Char) : Bool :=
  c.isAlphanum || "!$&\x27()*+,-.:;=@[]_~".toList.contains c

/-- An authority's text while it is read: colons since the last part that may hold some, brackets
seen, whether a percent sign is in the host, and whether the last character was an at sign. -/
structure AuthorityScan where
  colons : Nat := 0
  opened : Bool := false
  closed : Bool := false
  percent : Bool := false
  atEnd : Bool := false

/-- One character of an authority. -/
def AuthorityScan.step? (s : AuthorityScan) (c : Char) : Option AuthorityScan :=
  let s := { s with atEnd := false }
  if c == ':' then if 8 ≤ s.colons then none else some { s with colons := s.colons + 1 }
  else if c == '[' then if s.percent || s.opened then none else some { s with opened := true }
  else if c == ']' then
    if !s.opened || s.closed then none
    else some { s with closed := true, colons := 0, percent := false }
  else if c == '@' then some { s with colons := 0, percent := false, atEnd := true }
  else if c == '%' then some { s with percent := true }
  else if isAuthorityChar c then some s
  else none

/-- A host with user information in front and a port behind, either of which may be missing. -/
def isAuthority (cs : List Char) : Bool :=
  match cs.foldlM AuthorityScan.step? {} with
  | none => false
  | some s => s.opened == s.closed && s.colons ≤ 1 && !s.atEnd && !s.percent && !cs.isEmpty

/-- What follows a scheme and its mark. -/
def afterScheme? (cs : List Char) : Option (List Char) :=
  let isSchemeChar (c : Char) : Bool :=
    c.isAlphanum || c == '+' || c == '-' || c == '.' || c == '~'
  match cs.dropWhile isSchemeChar with
  | ':' :: '/' :: '/' :: rest => some rest
  | _ => none

def path? (target : String) : Option String :=
  let endsAuthority (c : Char) : Bool := c == '/' || c == '?' || c == '#'
  match target.toList with
  | [] => none
  | ['*'] => some "*"
  | '/' :: rest => (pathOf? ('/' :: rest)).map String.ofList
  | cs =>
    match afterScheme? cs with
    | some rest =>
      if isAuthority (rest.takeWhile fun c => !endsAuthority c) then
        (pathOf? (rest.dropWhile fun c => !endsAuthority c)).map String.ofList
      else none
    | none => if isAuthority cs then some "" else none

end TokenGate.Http.Target

namespace TokenGate.Http

/-- The longest target. -/
def Target.maxLength : Nat := 65534

/-- The request of a method, a target and headers that may stand in one. -/
def Request.ofParts? (method target : String) (headers : List (String × FieldValue)) :
    Option Request :=
  if isToken method && target.utf8ByteSize ≤ Target.maxLength
      && headers.all fun h => isToken h.1 && FieldValue.isValid h.2 then
    (Target.path? target).map fun path =>
      ⟨method, path, headers.map fun h => (Text.lowerAscii h.1, h.2)⟩
  else none

end TokenGate.Http
