import TokenGate.Decimal.Binary64

/-! # JSON values

Values as the library keeps them. An integer in the 64-bit ranges stays an integer; every other
number is a finite binary magnitude with a sign. A record lists its members in order, each name
once: a repeated name keeps its first place and takes its last value. -/

namespace TokenGate

/-- A JSON number. -/
inductive Json.Number where
  /-- A natural number of 64 bits. -/
  | natural (n : UInt64)
  /-- The integer `-n`, with `n` from 1 to `2 ^ 63`. -/
  | negative (n : UInt64)
  /-- Any other number. -/
  | real (isNegative : Bool) (magnitude : Decimal.Binary64)
  deriving DecidableEq, Repr, Inhabited

/-- A JSON value. -/
inductive Json where
  | null
  | bool (b : Bool)
  | number (n : Json.Number)
  | text (s : String)
  | list (items : List Json)
  | record (members : List (String × Json))
  deriving BEq, Repr, Inhabited

namespace Json

/-- Members with one name set: in place if the name is there, else behind the others. -/
def put (members : List (String × α)) (name : String) (value : α) : List (String × α) :=
  match members with
  | [] => [(name, value)]
  | (n, v) :: rest => if n == name then (n, value) :: rest else (n, v) :: put rest name value

/-- Members with each name once, at its first place and with its last value. -/
def lastValues (members : List (String × α)) : List (String × α) :=
  members.foldl (fun kept m => put kept m.1 m.2) []

def lookup? (members : List (String × α)) (name : String) : Option α :=
  (members.find? fun m => m.1 == name).map (·.2)

def get? (j : Json) (name : String) : Option Json :=
  match j with
  | record members => lookup? members name
  | _ => none

def text? : Json → Option String
  | text s => some s
  | _ => none

/-- The natural number of a number value written without sign, fraction or exponent. -/
def natural? : Json → Option UInt64
  | number (.natural n) => some n
  | _ => none

def bool? : Json → Option Bool
  | bool b => some b
  | _ => none

def items? : Json → Option (List Json)
  | list items => some items
  | _ => none

def texts? (j : Json) : Option (List String) :=
  j.items?.bind fun items => items.mapM text?

theorem lookup?_cons (n : String) (v : α) (rest : List (String × α)) (name : String) :
    lookup? ((n, v) :: rest) name = if n = name then some v else lookup? rest name := by
  by_cases h : n = name <;> simp [lookup?, h]

/-- Setting a name changes what is found under that name and under no other. -/
theorem lookup?_put (members : List (String × α)) (name other : String) (value : α) :
    lookup? (put members name value) other =
      if name = other then some value else lookup? members other := by
  induction members with
  | nil => simp [put, lookup?_cons]
  | cons m rest ih =>
    obtain ⟨n, v⟩ := m
    by_cases hn : n = name
    · subst hn
      by_cases ho : n = other <;> simp [put, lookup?_cons, ho]
    · simp only [put, beq_iff_eq, hn, if_false, lookup?_cons, ih]
      by_cases ho : n = other
      · subst ho
        simp [Ne.symm hn]
      · simp [ho]

end Json

end TokenGate
