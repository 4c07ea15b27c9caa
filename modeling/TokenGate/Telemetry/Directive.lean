import TokenGate.Log
import TokenGate.Text.Alphanumeric
import TokenGate.Text.Blank
import TokenGate.Text.Digits
import TokenGate.Text.Symbol

/-! # Directives of a log filter

A directive says down to which level records pass. It may be limited to a target and, in brackets,
to a span and to fields of the span in braces: `target[span{field=value}]=level`. A lone level
holds for every target, a lone target for every level. -/

namespace TokenGate.Telemetry

/-- Which levels pass. -/
inductive Threshold where
  | off
  /-- A level and all that are more important. -/
  | upTo (level : Level)
  deriving DecidableEq, Repr

namespace Threshold

/-- Thresholds in order of how much passes. -/
def rank : Threshold → Nat
  | off => 0
  | upTo .error => 1
  | upTo .warn => 2
  | upTo .info => 3
  | upTo .debug => 4
  | upTo .trace => 5

def passes (t : Threshold) (level : Level) : Bool := (upTo level).rank ≤ t.rank

/-- The more generous of two thresholds. -/
def most (s t : Threshold) : Threshold := if s.rank ≤ t.rank then t else s

/-- The thresholds by number. -/
def all : List Threshold :=
  [off, upTo .error, upTo .warn, upTo .info, upTo .debug, upTo .trace]

def name : Threshold → String
  | off => "OFF"
  | upTo level => level.name

/-- The threshold that a number or a name spells, the name in any case. -/
def ofText? (s : String) : Option Threshold :=
  ((Text.natural? s.toList).bind fun n => all[n]?).or
    (all.find? fun t => Text.equalsIgnoringAsciiCase t.name s)

end Threshold

/-- Why a text is no directive. -/
inductive DirectiveError where
  /-- The parts do not stand where they should. -/
  | malformed
  /-- What stands for a level is none. -/
  | level
  /-- A part would begin or end inside a character. -/
  | divided
  deriving DecidableEq, Repr

namespace DirectiveError

/-- The reader gives up over the text: whoever wanted it read gets no answer at all. -/
def isFatal : DirectiveError → Bool
  | malformed | level => false
  | divided => true

def message : DirectiveError → String
  | malformed => "invalid filter directive"
  | level => "error parsing level filter: expected one of \"off\", \"error\", \"warn\", \"info\", "
      ++ "\"debug\", \"trace\", or a number 0-5"
  | divided => "a part divides a character"

end DirectiveError

/-- The value that a field must have: an integer of 64 bits, or anything else. -/
inductive ValuePattern where
  | integer (n : Int)
  | other (text : String)
  deriving DecidableEq, Repr

/-- The pattern that a text spells. -/
def ValuePattern.ofText (s : String) : ValuePattern :=
  match (Text.integer? s.toList).filter fun n =>
      -0x8000000000000000 ≤ n && n < 0x10000000000000000 with
  | some n => .integer n
  | none => .other s

/-- A field that a span must have, and the value it must have. -/
structure FieldPattern where
  name : String
  value : Option ValuePattern
  deriving DecidableEq, Repr

/-- A directive. -/
structure Directive where
  target : Option String := none
  span : Option String := none
  fields : List FieldPattern := []
  threshold : Threshold := .upTo .trace
  deriving DecidableEq, Repr

namespace Directive

/-- The place reached in a directive, with the offset at which an open part begins. -/
inductive Place where
  | start
  | levelOrTarget (begun : Nat)
  | span (begun : Nat)
  | field (begun : Nat)
  /-- Behind the fields. -/
  | fields
  /-- Behind the brackets. -/
  | brackets
  | level (begun : Nat)
  deriving DecidableEq, Repr

/-- A directive read so far: the octets passed, the place, and the parts found. -/
structure Reading where
  passed : Nat := 0
  place : Place := .start
  found : Directive := {}
  deriving Repr

/-- The octets of a text from one offset up to another, as a text. -/
def slice (text : String) (first last : Nat) : Except DirectiveError String :=
  match Text.decodeUtf8? (((Text.encodeUtf8 text).take last).drop first) with
  | some part => .ok part
  | none => .error .divided

def rest (text : String) (first : Nat) : Except DirectiveError String :=
  slice text first (Text.encodeUtf8 text).length

/-- A text that says which levels pass; the empty one lets everything pass. -/
def thresholdOf (s : String) : Except DirectiveError Threshold :=
  if s == "" then .ok (.upTo .trace)
  else
    match Threshold.ofText? s with
    | some t => .ok t
    | none => .error .level

/-- A field, and behind an equals sign its value. -/
def fieldPattern (s : String) : Except DirectiveError FieldPattern :=
  if s == "" then .error .malformed
  else
    let parts := Text.splitAt '=' s
    .ok ⟨parts.headD "", parts[1]?.map ValuePattern.ofText⟩

/-- A directive begins with a letter, a digit or one of three marks. -/
def canBegin (c : Char) : Bool :=
  c == '-' || c == ':' || c == '_' || Text.isAlphanumeric c

/-- The next character read. -/
def Reading.step (text : String) (r : Reading) (c : Char) : Except DirectiveError Reading := do
  let here := r.passed
  let next := here + c.utf8Size
  match r.place, c with
  | .start, '[' => return { r with passed := next, place := .span next }
  | .start, c =>
    if canBegin c then return { r with passed := next, place := .levelOrTarget here }
    else throw .malformed
  | .levelOrTarget begun, '=' =>
    let target ← slice text begun here
    return ⟨next, .level next, { r.found with target := some target }⟩
  | .levelOrTarget begun, '[' =>
    let target ← slice text begun here
    return ⟨next, .span next, { r.found with target := some target }⟩
  | .span begun, ']' =>
    let span ← slice text begun here
    return ⟨next, .brackets, { r.found with span := some span }⟩
  | .span begun, '\x7b' =>
    let span ← slice text begun here
    return ⟨next, .field next, { r.found with span := if span == "" then none else some span }⟩
  | .field begun, '\x7d' =>
    let field ← fieldPattern (← slice text begun here)
    return ⟨next, .fields, { r.found with fields := r.found.fields ++ [field] }⟩
  | .fields, ']' => return { r with passed := next, place := .brackets }
  | .brackets, '=' => return { r with passed := next, place := .level next }
  | .fields, _ | .brackets, _ => throw .malformed
  | .levelOrTarget _, _ | .span _, _ | .field _, _ | .level _, _ => return { r with passed := next }

/-- The directive at the end of its text. -/
def Reading.finish (text : String) (r : Reading) : Except DirectiveError Directive := do
  match r.place with
  | .levelOrTarget begun =>
    let s ← rest text begun
    match Threshold.ofText? s with
    | some t => return { r.found with threshold := t, target := none }
    | none => return { r.found with target := some s }
  | .level begun => return { r.found with threshold := ← thresholdOf (← rest text begun) }
  | .brackets => return r.found
  | .start | .span _ | .field _ | .fields => throw .malformed

/-- The directive that a text spells. The places of its parts are found without the blanks around
it, the parts are then taken from the text as it stands. -/
def ofText (text : String) : Except DirectiveError Directive := do
  let reading ← (Text.trimChars text.toList).foldlM (Reading.step text) {}
  reading.finish text

end Directive

end TokenGate.Telemetry
