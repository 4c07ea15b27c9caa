/-! # Policies of a key refresh -/

namespace TokenGate

/-- What to do with a document that has no usable key. -/
inductive EmptySetPolicy where
  /-- A set with keys stays; anything else becomes an empty set. -/
  | preserveExisting
  /-- The current set becomes an empty one. -/
  | replace
  deriving DecidableEq, Repr

namespace EmptySetPolicy

def all : List EmptySetPolicy := [preserveExisting, replace]

def name : EmptySetPolicy → String
  | preserveExisting => "preserve_existing"
  | replace => "replace"

def ofName? (s : String) : Option EmptySetPolicy := all.find? fun p => p.name == s

def describe : EmptySetPolicy → String
  | preserveExisting => "PreserveExisting"
  | replace => "Replace"

end EmptySetPolicy

/-- What happens to a fetch that is under way when the loop is cancelled. -/
inductive CancelPolicy where
  /-- The fetch is dropped, and nothing of it is installed. -/
  | abandonInFlight
  /-- The fetch ends and its result is installed; then the loop stops. -/
  | finishInFlight
  deriving DecidableEq, Repr

def CancelPolicy.describe : CancelPolicy → String
  | abandonInFlight => "AbandonInFlight"
  | finishInFlight => "FinishInFlight"

end TokenGate
