import TokenGate.Json.Printer
import TokenGate.Telemetry.Filter

/-! # Records as they are written

A record is written as a JSON object, or as lines for people: level, target, message and fields,
and behind them the span around it. The time and the place in the program are left out. -/

namespace TokenGate.Telemetry

/-- A record of some target with its fields, in the span in which it was made. -/
structure Record where
  target : String
  level : Level
  message : String
  fields : List (String × Json) := []
  span : Option Span := none
  deriving Repr

def integerJson : Int → Json
  | .ofNat n => .number (.natural n.toUInt64)
  | .negSucc n => .number (.negative (n + 1).toUInt64)

def Span.toJson (s : Span) : Json :=
  .record (s.fields.map (fun f => (f.1, integerJson f.2)) ++ [("name", .text s.name)])

/-- A character that a terminal could take for a command is spelt out. -/
def escapeChar (c : Char) : List Char :=
  let n := c.toNat
  if [0x1B, 0x07, 0x08, 0x0C, 0x7F].contains n then
    "\\x".toList ++ (if n < 0x10 then ['0'] else []) ++ Nat.toDigits 16 n
  else if 0x80 ≤ n && n ≤ 0x9F then
    "\\u\x7b".toList ++ Nat.toDigits 16 n ++ ['\x7d']
  else [c]

/-- A message for people. -/
def escape (s : String) : String := String.ofList (s.toList.flatMap escapeChar)

/-- A value for people: a text as it stands. -/
def plainText : Json → String
  | .text s => s
  | j => j.write

def plainFields (fields : List (String × Json)) : List String :=
  fields.map fun f => f.1 ++ ": " ++ plainText f.2

def Span.write (s : Span) : String :=
  let fields := plainFields (s.fields.map fun f => (f.1, integerJson f.2))
  "in " ++ s.target ++ "::" ++ s.name
    ++ if fields.isEmpty then "" else " with " ++ ", ".intercalate fields

namespace Record

/-- The names of the message and the fields. -/
def fieldNames (r : Record) : List String := "message" :: r.fields.map Prod.fst

def toJson (r : Record) : Json :=
  let spans : List (String × Json) :=
    match r.span with
    | some s => [("span", s.toJson), ("spans", .list [s.toJson])]
    | none => []
  .record ([("level", .text r.level.name),
    ("fields", .record (("message", .text r.message) :: r.fields)),
    ("target", .text r.target)] ++ spans)

def write (r : Record) : String :=
  let parts := escape r.message :: plainFields r.fields
  r.level.name ++ " " ++ r.target ++ ": " ++ ", ".intercalate parts
    ++ match r.span with
      | some s => "\n" ++ s.write
      | none => ""

end Record

end TokenGate.Telemetry
