import TokenGate.Key.Cache

/-! # The key cache among writers and readers

An install takes the lock of the generation, counts it up, stores its set under the new number and
gives the lock back. A reader loads the current set without the lock and reads the generation only
while nobody holds it. A schedule is a list of turns, each one step of one writer or reader, and
`run?` plays it. An install that nobody interrupts is the `install` of `KeyCache`. -/

namespace TokenGate

/-- How far a writer is with the first of its sets. -/
inductive InstallPhase where
  | waiting
  | locked
  | counted (generation : Nat)
  | stored (generation : Nat)
  deriving DecidableEq, Repr

/-- A writer: the sets it has yet to install, how far it is with the first of them, and its finished
installs with the generations they returned, the latest first. -/
structure CacheWriter where
  pending : List KeySet
  phase : InstallPhase
  finished : List (Nat × KeySet)
  deriving DecidableEq, Repr

/-- What a reader has seen. -/
inductive CacheSight where
  | set (current : KeySet)
  | generation (value : Nat)
  deriving DecidableEq, Repr

/-- One step of the writer or reader at a place. -/
inductive CacheTurn where
  | write (writer : Nat)
  | loadSet (reader : Nat)
  | readGeneration (reader : Nat)
  deriving DecidableEq, Repr

/-- A cache with its lock, its writers, and what each of its readers has seen, the latest first. -/
structure SharedCache where
  cache : KeyCache
  isLocked : Bool
  writers : List CacheWriter
  readers : List (List CacheSight)
  deriving DecidableEq, Repr

namespace SharedCache

/-- A cache before the first turn: each writer has its sets before it, no reader has seen
anything. -/
def start (cache : KeyCache) (work : List (List KeySet)) (readers : Nat) : SharedCache :=
  ⟨cache, false, work.map fun sets => ⟨sets, .waiting, []⟩, List.replicate readers []⟩

/-- One step of a writer with a set at hand. It waits while another one holds the lock. -/
def writerStep? (cache : KeyCache) (isLocked : Bool) :
    CacheWriter → Option (KeyCache × Bool × CacheWriter)
  | ⟨[], _, _⟩ => none
  | ⟨set :: rest, .waiting, finished⟩ =>
    if isLocked then none else some (cache, true, ⟨set :: rest, .locked, finished⟩)
  | ⟨set :: rest, .locked, finished⟩ =>
    let generation := cache.generation + 1
    some (⟨cache.current, generation⟩, isLocked, ⟨set :: rest, .counted generation, finished⟩)
  | ⟨set :: rest, .counted generation, finished⟩ =>
    some (⟨{ set with generation := generation }, cache.generation⟩, isLocked,
      ⟨set :: rest, .stored generation, finished⟩)
  | ⟨set :: rest, .stored generation, finished⟩ =>
    some (cache, false, ⟨rest, .waiting, (generation, set) :: finished⟩)

/-- A reader sees something more. -/
def noteSight? (s : SharedCache) (reader : Nat) (sight : CacheSight) : Option SharedCache :=
  (s.readers[reader]?).map fun seen => { s with readers := s.readers.set reader (sight :: seen) }

/-- One turn, if the one whose turn it is can step. -/
def step? (s : SharedCache) : CacheTurn → Option SharedCache
  | .write i =>
    (s.writers[i]?).bind fun writer =>
      (writerStep? s.cache s.isLocked writer).map fun (cache, isLocked, next) =>
        ⟨cache, isLocked, s.writers.set i next, s.readers⟩
  | .loadSet j => s.noteSight? j (.set s.cache.current)
  | .readGeneration j =>
    if s.isLocked then none else s.noteSight? j (.generation s.cache.generation)

/-- The turns of a schedule, one behind the other. -/
def run? (s : SharedCache) : List CacheTurn → Option SharedCache
  | [] => some s
  | turn :: rest => (s.step? turn).bind fun next => next.run? rest

/-- The installs finished so far with the generations they returned. -/
def finished (s : SharedCache) : List (Nat × KeySet) := s.writers.flatMap CacheWriter.finished

/-- No writer has anything left to do. -/
def isDone (s : SharedCache) : Bool := s.writers.all fun writer => writer.pending.isEmpty

/-- The generation is read while no writer holds the lock. -/
theorem isLocked_of_readGeneration {s t : SharedCache} {j : Nat}
    (stepped : s.step? (.readGeneration j) = some t) : s.isLocked = false := by
  cases locked : s.isLocked with
  | true => simp [step?, locked] at stepped
  | false => rfl

/-- An install that nobody interrupts is one install of the cache. -/
theorem run?_uninterrupted (c : KeyCache) (set : KeySet) (sets : List KeySet) (readers : Nat) :
    ((start c [set :: sets] readers).run? (List.replicate 4 (.write 0))).map SharedCache.cache =
      some (c.install set) := rfl

end SharedCache

end TokenGate
