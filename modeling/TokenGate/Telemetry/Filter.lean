import TokenGate.Telemetry.Directive

/-! # Filters of log records

A filter is a list of directives with commas between them. Directives without a span and without
values of fields are static: the most specific one that fits a record decides about it. Directives
that name a span or fields are dynamic: they turn on the spans they fit, and within such a span the
records of their levels. -/

namespace TokenGate.Telemetry

/-- A named span of time with its integer fields, at a level. -/
structure Span where
  target : String
  name : String
  level : Level
  fields : List (String × Int)
  deriving DecidableEq, Repr

/-- A directive about targets; a record must also have the named fields. -/
structure StaticDirective where
  target : Option String
  fieldNames : List String
  threshold : Threshold
  deriving DecidableEq, Repr

namespace StaticDirective

/-- The length of the target in octets, and whether there is one. -/
def targetSize (d : StaticDirective) : Nat :=
  match d.target with
  | some t => t.utf8ByteSize + 1
  | none => 0

/-- One list of texts comes behind another. -/
def textsBehind : List String → List String → Bool
  | [], _ => false
  | _ :: _, [] => true
  | a :: as, b :: bs => b < a || (a == b && textsBehind as bs)

/-- A directive is tried before another: its target is longer, or else it names more fields, or else
its target, and then its fields, come later in the order of texts. -/
def triedBefore (d e : StaticDirective) : Bool :=
  if d.targetSize != e.targetSize then e.targetSize < d.targetSize
  else if d.fieldNames.length != e.fieldNames.length then
    e.fieldNames.length < d.fieldNames.length
  else if d.target != e.target then e.target.getD "" < d.target.getD ""
  else textsBehind d.fieldNames e.fieldNames

/-- Two directives speak about the same targets and fields. -/
def sameScope (d e : StaticDirective) : Bool :=
  d.target == e.target && d.fieldNames == e.fieldNames

/-- A directive among others in the order in which they are tried. It replaces one about the same
targets and fields. -/
def insert (d : StaticDirective) : List StaticDirective → List StaticDirective
  | [] => [d]
  | e :: rest =>
    if d.sameScope e then d :: rest
    else if d.triedBefore e then d :: e :: rest
    else e :: insert d rest

def fitsTarget (d : StaticDirective) (target : String) : Bool :=
  d.target.all fun t => t.isPrefixOf target

end StaticDirective

namespace Directive

def isDynamic (d : Directive) : Bool := d.span.isSome || !d.fields.isEmpty

/-- What the directive says about records outside any span. -/
def static? (d : Directive) : Option StaticDirective :=
  if d.span.isNone && d.fields.all fun f => f.value.isNone then
    some ⟨d.target, d.fields.map FieldPattern.name, d.threshold⟩
  else none

/-- The directive speaks about a span: target and name are the span's, and it has the fields. -/
def fits (d : Directive) (s : Span) : Bool :=
  d.target.all (fun t => t.isPrefixOf s.target) && d.span.all (· == s.name)
    && d.fields.all fun f => s.fields.any fun g => g.1 == f.name

/-- A span's fields have the values that the directive asks for. -/
def holds (d : Directive) (s : Span) : Bool :=
  d.fields.all fun f =>
    match f.value with
    | none => true
    | some v => s.fields.any fun g => g.1 == f.name && v == .integer g.2

/-- Two directives speak about the same records. -/
def sameScope (d e : Directive) : Bool :=
  d.target == e.target && d.span == e.span && d.fields == e.fields

/-- Only the last of the directives about the same records. -/
def lastOfScope : List Directive → List Directive
  | [] => []
  | d :: rest => if rest.any d.sameScope then lastOfScope rest else d :: lastOfScope rest

end Directive

/-- A filter: its static directives in the order in which they are tried, and its dynamic ones. -/
structure Filter where
  statics : List StaticDirective := []
  dynamics : List Directive := []
  deriving DecidableEq, Repr

namespace Filter

/-- The filter of some directives. Those that are static only come before the others. -/
def ofDirectives (ds : List Directive) : Filter :=
  let (dynamics, others) := ds.partition Directive.isDynamic
  { statics := ((others ++ dynamics).filterMap Directive.static?).foldl
      (fun tried d => d.insert tried) []
    dynamics := Directive.lastOfScope dynamics }

/-- The filter that a text spells; empty directives are left out. -/
def ofText (s : String) : Except DirectiveError Filter := do
  let directives ← ((Text.splitAt ',' s).filter (· != "")).mapM Directive.ofText
  return ofDirectives directives

/-- The first static directive about a target decides about a span. -/
def passesSpan (f : Filter) (s : Span) : Bool :=
  (f.statics.find? fun d => d.fitsTarget s.target).any fun d => d.threshold.passes s.level

/-- A span is turned on by a dynamic directive about it, or passes. -/
def turnsOn (f : Filter) (s : Span) : Bool :=
  f.dynamics.any (fun d => d.fits s) || f.passesSpan s

/-- The threshold within a span. -/
def within (f : Filter) (s : Span) : Threshold :=
  ((f.dynamics.filter fun d => d.fits s && d.holds s).map Directive.threshold).foldl Threshold.most
    .off

/-- A record passes: within a span that lets it, or by the first static directive about its target
and fields. -/
def passes (f : Filter) (span : Option Span) (target : String) (level : Level)
    (fieldNames : List String) : Bool :=
  span.any (fun s => (f.within s).passes level)
    || (f.statics.find? fun d =>
        d.fitsTarget target && d.fieldNames.all fieldNames.contains).any
      fun d => d.threshold.passes level

end Filter

end TokenGate.Telemetry
