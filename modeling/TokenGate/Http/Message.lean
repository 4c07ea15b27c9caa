import TokenGate.Text.Blank
import TokenGate.Text.Symbol

/-! # Requests and responses

What the service reads of a request and writes in a response. Header names are in lower case and may
be repeated; the first value counts. A value is octets, which need not spell a text. A request is
made only from a method, target, names and values that may stand in one. -/

namespace TokenGate.Http

abbrev FieldValue := List UInt8

/-- The value of the first header of a name. -/
def firstValue? (headers : List (String × FieldValue)) (name : String) : Option FieldValue :=
  (headers.find? fun h => h.1 == name).map (·.2)

/-- A request. -/
structure Request where
  method : String
  path : String
  headers : List (String × FieldValue)
  deriving DecidableEq, Repr

/-- A response. -/
structure Response where
  status : Nat
  headers : List (String × FieldValue) := []
  body : String := ""
  deriving DecidableEq, Repr

namespace Request

def header? (r : Request) (name : String) : Option FieldValue := firstValue? r.headers name

def isRead (r : Request) : Bool := r.method == "GET" || r.method == "HEAD"

end Request

namespace Response

def header? (r : Response) (name : String) : Option FieldValue := firstValue? r.headers name

/-- The response with one more header, unless it has one of that name. -/
def withHeader (r : Response) (name : String) (value : FieldValue) : Response :=
  if (r.header? name).isSome then r else { r with headers := r.headers ++ [(name, value)] }

def ofJsonText (status : Nat) (body : String) : Response :=
  { status := status, headers := [("content-type", Text.encodeUtf8 "application/json")],
    body := body }

end Response

def isTokenChar (c : Char) : Bool :=
  c.isAlphanum || "!#$%&\x27*+-.^_\x60|~".toList.contains c

def isToken (s : String) : Bool := s != "" && s.toList.all isTokenChar

namespace FieldValue

/-- An octet that may stand in a value: no control but the tab. -/
def isOctet (octet : UInt8) : Bool := (32 ≤ octet && octet != 127) || octet == 9

/-- An octet that can be read as text: a visible character, a blank or a tab. -/
def isVisibleOctet (octet : UInt8) : Bool := (32 ≤ octet && octet < 127) || octet == 9

/-- Octets that may be a value. -/
def isValid (value : FieldValue) : Bool := value.all isOctet

/-- The text of a value, if all its octets can be read. -/
def text? (value : FieldValue) : Option String :=
  if value.all isVisibleOctet then some (String.ofList (value.map Char.ofUInt8)) else none

end FieldValue

end TokenGate.Http
