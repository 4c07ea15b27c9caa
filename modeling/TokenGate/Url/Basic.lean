import TokenGate.Url.Host

/-! # URLs

The parts of an absolute URL and its text. -/

namespace TokenGate

/-- The path of a URL. -/
inductive Url.Path where
  /-- Segments, each behind a slash. -/
  | rooted (segments : List String)
  /-- A text that begins with no slash. -/
  | rootless (text : String)
  deriving DecidableEq, Repr

/-- An absolute URL. The port of the scheme itself is left out, and an absent user name or password
is empty. -/
structure Url where
  scheme : String
  userName : String
  password : String
  host : Option Host
  port : Option Nat
  path : Url.Path
  query : Option String
  fragment : Option String
  deriving DecidableEq, Repr

namespace Url

def Path.write : Path → String
  | rooted segments => String.join (segments.map fun s => "/" ++ s)
  | rootless text => text

def writeUserInfo (u : Url) : String :=
  if u.userName == "" && u.password == "" then ""
  else u.userName ++ (if u.password == "" then "" else ":" ++ u.password) ++ "@"

/-- The text of everything behind the scheme and before the path. -/
def writeAuthority (u : Url) : String :=
  match u.host with
  | none => ""
  | some host =>
    "//" ++ u.writeUserInfo ++ host.write
      ++ match u.port with
        | some port => ":" ++ toString port
        | none => ""

/-- A part with its mark in front, or nothing. -/
def writeOptional (mark : String) : Option String → String
  | some part => mark ++ part
  | none => ""

def write (u : Url) : String :=
  u.scheme ++ ":" ++ u.writeAuthority ++ u.path.write ++ writeOptional "?" u.query
    ++ writeOptional "#" u.fragment

/-- What a request for the URL asks its server for. -/
def target (u : Url) : String :=
  u.path.write ++ writeOptional "?" u.query

/-- Keys may be fetched over an encrypted connection, or from the machine itself. -/
def isSecure (u : Url) : Bool :=
  u.scheme == "https" || (u.scheme == "http" && u.host.any Host.isLoopback)

end Url

end TokenGate
