import TokenGate.Key.Set

/-! # The key cache

The cache holds the current key set. Every install replaces the whole set and gives it the next
generation, so a reader has either the set before or the set after, never a mix. -/

namespace TokenGate

/-- The current set and the number of installs so far. -/
structure KeyCache where
  current : KeySet
  generation : Nat
  deriving DecidableEq, Repr

namespace KeyCache

def new : KeyCache := ⟨.uninitialized, 0⟩

/-- The cache behind an install. The set takes the generation of the install. -/
def install (c : KeyCache) (set : KeySet) : KeyCache :=
  ⟨{ set with generation := c.generation + 1 }, c.generation + 1⟩

def installRecord (c : KeyCache) : LogRecord :=
  ⟨.debug, "Installed key set",
    [("generation", toString c.generation), ("key_count", toString c.current.size)]⟩

def isInitialized (c : KeyCache) : Bool := 0 < c.generation

def installAll (c : KeyCache) (sets : List KeySet) : KeyCache := sets.foldl install c

theorem generation_install (c : KeyCache) (set : KeySet) :
    (c.install set).generation = c.generation + 1 := rfl

/-- The set in place is the one installed last, under its own generation. -/
theorem current_install (c : KeyCache) (set : KeySet) :
    (c.install set).current = { set with generation := c.generation + 1 } := rfl

theorem isInitialized_install (c : KeyCache) (set : KeySet) :
    (c.install set).isInitialized = true := by
  simp [isInitialized, generation_install]

/-- Installs are counted one by one. -/
theorem generation_installAll (c : KeyCache) (sets : List KeySet) :
    (c.installAll sets).generation = c.generation + sets.length := by
  induction sets generalizing c with
  | nil => rfl
  | cons set rest ih =>
    simp only [installAll, List.foldl_cons] at ih ⊢
    rw [ih, generation_install, List.length_cons]
    omega

end KeyCache

end TokenGate
