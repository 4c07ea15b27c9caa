import TokenGate.Json.Reader

/-! # Fields of a structure

A structure is written as a record of its fields or as a list of them in order. In a record a field
may occur once, and members that are no field are passed over. In a list the last fields may be
missing, and nothing may follow the last one. -/

namespace TokenGate.Json

/-- The fields of a structure as they were written. -/
inductive Fields (α : Type) where
  | named (members : List (String × α))
  | ordered (items : List α)
  deriving Repr

namespace Fields

/-- No field is given twice, and no item is left over. -/
def wellFormed (names : List String) : Fields α → Bool
  | named members => names.all fun name => (members.filter fun m => m.1 == name).length ≤ 1
  | ordered items => items.length ≤ names.length

def get? (names : List String) (name : String) : Fields α → Option α
  | named members => lookup? members name
  | ordered items => lookup? (names.zip items) name

end Fields

def fields? (names : List String) (j : Json) : Option (Fields Json) :=
  let written : Option (Fields Json) :=
    match j with
    | .record members => some (.named members)
    | .list items => some (.ordered items)
    | _ => none
  written.filter (Fields.wellFormed names)

/-- The members of a raw record; all names must have content. -/
def Raw.members? : Raw → Option (List (String × Raw))
  | .record members => members.mapM fun (m : Option String × Raw) => m.1.map fun name => (name, m.2)
  | _ => none

def Raw.fields? (names : List String) (r : Raw) : Option (Fields Raw) :=
  let written : Option (Fields Raw) :=
    match r with
    | .list items => some (.ordered items)
    | _ => r.members?.map .named
  written.filter (Fields.wellFormed names)

/-- An optional field: a missing field and `null` are both absent. -/
def optional? (read? : Json → Option α) : Option Json → Option (Option α)
  | none => some none
  | some .null => some none
  | some j => (read? j).map some

/-- A field with a default for when it is missing; `null` is not missing. -/
def defaulted? (read? : Json → Option α) (default : α) : Option Json → Option α
  | none => some default
  | some j => read? j

/-- A name written as itself, or as the one member, without content, of a record. -/
def choice? : Json → Option String
  | .text name => some name
  | .record [(name, .null)] => some name
  | _ => none

end TokenGate.Json
