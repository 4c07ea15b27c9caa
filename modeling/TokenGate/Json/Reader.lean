import TokenGate.Json.Token

/-! # Reading JSON documents

Tokens become a tree by a stack of open lists and records. The tree is raw: it keeps repeated names
and texts and numbers without content, at any depth. Keeping a value is a second step that refuses
those contents and more than a fixed number of containers inside one another, so a document may
hold anything well-formed where its reader looks away. -/

namespace TokenGate.Json

open TokenGate.Text (Symbol)

/-- A document's tree before any of it is kept. -/
inductive Raw where
  | null
  | bool (b : Bool)
  | number (content : Option Number)
  | text (content : Option String)
  | list (items : List Raw)
  | record (members : List (Option String × Raw))
  deriving Inhabited, Repr

/-- An open container, its contents in reverse. -/
inductive Frame where
  | list (items : List Raw)
  | record (members : List (Option String × Raw))
  /-- A record with a member whose value has not ended. -/
  | member (members : List (Option String × Raw)) (name : Option String)
  deriving Inhabited

/-- What may follow. -/
inductive Phase where
  | value
  /-- A value, or the end of the list just begun. -/
  | firstItem
  /-- A name, or the end of the record just begun. -/
  | firstName
  | name
  | colon
  /-- A comma or the end of the innermost container. -/
  | after
  | done (result : Raw)
  deriving Inhabited

/-- A value ends inside the open containers. -/
def place? (v : Raw) : List Frame → Option (Phase × List Frame)
  | [] => some (.done v, [])
  | .list items :: outer => some (.after, .list (v :: items) :: outer)
  | .member members name :: outer => some (.after, .record ((name, v) :: members) :: outer)
  | .record _ :: _ => none

/-- A token where a value is due. -/
def beginValue? (outer : List Frame) : Token → Option (Phase × List Frame)
  | .null => place? .null outer
  | .bool b => place? (.bool b) outer
  | .text content => place? (.text content) outer
  | .number content => place? (.number content) outer
  | .beginList => some (.firstItem, .list [] :: outer)
  | .beginRecord => some (.firstName, .record [] :: outer)
  | _ => none

/-- One token. -/
def advance? : Phase → List Frame → Token → Option (Phase × List Frame)
  | .value, outer, t => beginValue? outer t
  | .firstItem, .list items :: outer, .endList => place? (.list items.reverse) outer
  | .firstItem, outer, t => beginValue? outer t
  | .firstName, .record members :: outer, .endRecord => place? (.record members.reverse) outer
  | .firstName, .record members :: outer, .text name => some (.colon, .member members name :: outer)
  | .name, .record members :: outer, .text name => some (.colon, .member members name :: outer)
  | .colon, outer, .colon => some (.value, outer)
  | .after, .list items :: outer, .comma => some (.value, .list items :: outer)
  | .after, .list items :: outer, .endList => place? (.list items.reverse) outer
  | .after, .record members :: outer, .comma => some (.name, .record members :: outer)
  | .after, .record members :: outer, .endRecord => place? (.record members.reverse) outer
  | _, _, _ => none

/-- The tree that tokens spell from a phase on; nothing may follow it. -/
def run? (phase : Phase) (outer : List Frame) : List Token → Option Raw
  | [] =>
    match phase with
    | .done result => some result
    | _ => none
  | t :: rest =>
    match advance? phase outer t with
    | some (phase', outer') => run? phase' outer' rest
    | none => none

def raw? (document : List Symbol) : Option Raw :=
  (tokens? document).bind (run? .value [])

/-- The value of a tree with at most `limit` containers inside one another. -/
def Raw.value? : Nat → Raw → Option Json
  | _, .null => some .null
  | _, .bool b => some (.bool b)
  | _, .number content => content.map .number
  | _, .text content => content.map .text
  | 0, .list _ => none
  | 0, .record _ => none
  | limit + 1, .list items => (items.mapM (Raw.value? limit)).map .list
  | limit + 1, .record members =>
    (members.mapM fun (m : Option String × Raw) => do
      let name ← m.1
      let v ← Raw.value? limit m.2
      return (name, v)).map fun kept => .record (lastValues kept)

/-- How many containers may lie inside one another in a kept value. -/
def depthLimit : Nat := 127

def ofSymbols? (document : List Symbol) : Option Json :=
  (raw? document).bind (Raw.value? depthLimit)

def ofText? (document : String) : Option Json :=
  ofSymbols? (Text.ofText document)

end TokenGate.Json
