import TokenGate.Launch.Flag

/-! # The command line

A flag has its value behind an equals sign or as the next argument, which must not look like a flag.
A flag is settled when the next one comes or the arguments end: until then its value is not read,
so an unknown argument goes before a value that cannot be read. -/

namespace TokenGate.Launch

/-- An argument by its shape. -/
inductive Argument where
  /-- Behind two dashes nothing is a flag. -/
  | dashes
  | long (name : String) (value : Option String)
  /-- A dash and letters, the first of which counts. -/
  | short (letter : Char)
  | plain (text : String)
  deriving DecidableEq, Repr

/-- The name of a long flag, and its value behind the first equals sign. -/
def Argument.ofLong (cs : List Char) : Argument :=
  let name := cs.takeWhile (· != '=')
  .long (String.ofList name)
    (match cs.drop name.length with
      | _ :: value => some (String.ofList value)
      | [] => none)

def Argument.ofText (s : String) : Argument :=
  match s.toList with
  | ['-', '-'] => .dashes
  | '-' :: '-' :: cs => .ofLong cs
  | '-' :: c :: _ => .short c
  | _ => .plain s

/-- A flag that is not settled. -/
inductive Pending where
  | nothing
  | awaiting (f : Flag)
  | holding (f : Flag) (value : String)

/-- What has been read of a command line. -/
structure Scan where
  given : Given := {}
  pending : Pending := .nothing

namespace Scan

/-- The decisions with the pending flag settled. -/
def settle (s : Scan) : Except Refusal Given :=
  match s.pending with
  | .nothing => .ok s.given
  | .awaiting _ => .error .invalidValue
  | .holding f value => f.take value s.given

/-- A flag that only asks for something settles what is pending. -/
def ask (s : Scan) (answer : Refusal) : Except Refusal Scan :=
  s.settle.bind fun _ => .error answer

def long (s : Scan) (name : String) (value : Option String) : Except Refusal Scan :=
  match ([("help", Refusal.help), ("version", .version)].find? fun q => q.1 == name), value with
  | some _, some _ => .error .unexpectedValue
  | some (_, answer), none => s.ask answer
  | none, value =>
    match Flag.named? name, value with
    | none, _ => .error .unknownArgument
    | some f, none => s.settle.map fun g => { given := g, pending := .awaiting f }
    | some f, some v => (s.settle.bind (f.take v)).map fun g => { given := g }

def short (s : Scan) (letter : Char) : Except Refusal Scan :=
  if letter == 'h' then s.ask .help
  else if letter == 'V' then s.ask .version
  else .error .unknownArgument

/-- A text that is no flag must be the value of one. -/
def plain (s : Scan) (text : String) : Except Refusal Scan :=
  match s.pending with
  | .awaiting f => .ok { s with pending := .holding f text }
  | _ => .error .unknownArgument

/-- The decisions of the arguments that are left. -/
def run (s : Scan) : List String → Except Refusal Given
  | [] => s.settle
  | a :: rest =>
    match Argument.ofText a with
    | .dashes => if rest.isEmpty then s.settle else .error .unknownArgument
    | .long name value => (s.long name value).bind fun s => run s rest
    | .short letter => (s.short letter).bind fun s => run s rest
    | .plain text => (s.plain text).bind fun s => run s rest

end Scan

/-- The launch that arguments and environment describe. -/
def ofCommandLine (arguments : List String) (environment : String → Option String) :
    Except Refusal Launch :=
  ((Scan.run {} arguments).bind (Flag.takeEnvironment environment)).bind Given.complete

def versionText : String := serviceName ++ " " ++ serviceVersion ++ "\n"

/-- How a flag is written, and the variable that stands in for it. -/
def Flag.usage (f : Flag) : String :=
  "  --" ++ f.name ++ " <VALUE>  [env: " ++ f.environmentName ++ "]\n"

def usageText : String :=
  "Usage: " ++ serviceName ++ " [OPTIONS] --audience <VALUE>\n\n"
    ++ String.join (Flag.all.map Flag.usage)

def Refusal.text : Refusal → String
  | help => usageText
  | version => versionText
  | unknownArgument => "unknown argument\n"
  | unexpectedValue => "a flag has a value that takes none\n"
  | invalidValue => "a value is missing or not possible\n"
  | unreadableValue => "a value cannot be read\n"
  | conflict => "two arguments contradict each other\n"
  | missingArgument => "the audience is missing\n"

end TokenGate.Launch
