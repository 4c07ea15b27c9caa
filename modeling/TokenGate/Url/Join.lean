import TokenGate.Url.Parser

/-! # URLs relative to another

A reference without a scheme is read against the URL of a web server: it may replace the authority,
the path, the end of the path, the query or the fragment. -/

namespace TokenGate.Url

open TokenGate.Text

def Path.segments : Path → List String
  | .rooted segments => segments
  | .rootless _ => []

/-- A reference without scheme and authority, against a URL of a special scheme. -/
def joinPath (base : Url) (cs : List Char) : Url :=
  let path := cs.takeWhile fun c => !endsPath c
  let (query, fragment) := queryAndFragment .special (cs.dropWhile fun c => !endsPath c)
  let encoded (path : List Char) : List String :=
    (pieces (isSlash .special) path).map fun piece =>
      String.ofList (Percent.encode Percent.pathSet piece)
  match path with
  | [] =>
    let query := if cs.head? == some '?' then query else base.query
    { base with query := query, fragment := fragment }
  | c :: rest =>
    let segments :=
      if isSlash .special c then resolveDots [] (encoded rest)
      else resolveDots base.path.segments.dropLast (encoded path)
    { base with path := .rooted segments, query := query, fragment := fragment }

/-- A reference without a scheme, against a URL of a special scheme. -/
def joinRelative (base : Url) (cs : List Char) : Except Error Url :=
  if 2 ≤ (cs.takeWhile (isSlash .special)).length then
    withAuthority base.scheme .special (cs.dropWhile (isSlash .special))
  else .ok (joinPath base cs)

/-- A reference read against a URL of a special scheme. One that repeats its scheme without two
slashes is relative too. -/
def join (base : Url) (reference : String) : Except Error Url :=
  match scheme? (significant reference) with
  | none => joinRelative base (significant reference)
  | some (scheme, rest) =>
    if scheme == base.scheme && (rest.takeWhile (isSlash .special)).length < 2 then
      joinRelative base rest
    else ofText reference

end TokenGate.Url
