import TokenGate.Text.Blank

/-! # Bearer credentials

The value of an `Authorization` header that carries a token: the scheme, in any case of its
letters, and the token, apart by blanks. -/

namespace TokenGate.Bearer

/-- Why a header value carries no token. -/
inductive Error where
  | invalidFormat
  deriving DecidableEq, Repr

def Error.message : Error → String
  | invalidFormat => "authorization header format must be `Bearer <token>`"

/-- The token of a header value; none if the header is absent or blank. -/
def token? (header : Option String) : Except Error (Option String) :=
  match header.map Text.words with
  | none | some [] => .ok none
  | some [scheme, token] =>
    if Text.equalsIgnoringAsciiCase scheme "bearer" then .ok (some token)
    else .error .invalidFormat
  | some _ => .error .invalidFormat

end TokenGate.Bearer
