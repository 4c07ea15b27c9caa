import TokenGate.Key.Shared
import TokenGate.Proofs.Key.Installs

/-! # Installs and reads in any order

Whoever takes a turn, the installs that have ended are numbered from one on in the order in which
they held the lock. What is shown at any moment is the cache behind the installs that have stored
their set, one after another. So a reader gets whole sets only, and never an older one than it has
seen before. -/

namespace TokenGate

/-- Sets with their places, counted from one. -/
def numbered (sets : List KeySet) : List (Nat × KeySet) :=
  sets.mapIdx fun i set => (i + 1, set)

theorem numbered_concat (sets : List KeySet) (set : KeySet) :
    numbered (sets ++ [set]) = numbered sets ++ [(sets.length + 1, set)] := by
  simp [numbered, List.mapIdx_append]

/-- A set more has the next number. -/
theorem mem_numbered_concat (sets : List KeySet) (set : KeySet) :
    (sets.length + 1, set) ∈ numbered (sets ++ [set]) := by
  rw [numbered_concat]
  exact List.mem_append_right _ (List.mem_singleton_self _)

theorem map_fst_numbered (sets : List KeySet) :
    (numbered sets).map Prod.fst = List.range' 1 sets.length := by
  induction sets using List.reverseRecOn with
  | nil => rfl
  | append_singleton sets set ih =>
    rw [numbered_concat, List.map_append, ih, List.length_append, List.length_singleton,
      List.range'_concat]
    simp [Nat.add_comm]

private theorem length_numbered (sets : List KeySet) : (numbered sets).length = sets.length := by
  simp [numbered]

/-- A place has one set. -/
theorem numbered_unique {sets : List KeySet} {n : Nat} {set set' : KeySet}
    (left : (n, set) ∈ numbered sets) (right : (n, set') ∈ numbered sets) : set = set' := by
  simp only [numbered, List.mem_mapIdx, Prod.mk.injEq] at left right
  obtain ⟨i, _, place, rfl⟩ := left
  obtain ⟨j, _, place', rfl⟩ := right
  obtain rfl : i = j := by omega
  rfl

def CacheSight.number : CacheSight → Nat
  | set current => current.generation
  | generation value => value

/-- What a reader may have seen, the latest first, when some sets have been stored. -/
structure CacheSight.Seen (stored : List KeySet) (seen : List CacheSight) : Prop where
  ordered : seen.Pairwise fun later earlier => earlier.number ≤ later.number
  bounded : ∀ sight ∈ seen, sight.number ≤ stored.length
  whole : ∀ shown, .set shown ∈ seen → shown = .uninitialized ∨
    ∃ n set, (n, set) ∈ numbered stored ∧ shown = { set with generation := n }

namespace CacheSight.Seen

variable {stored : List KeySet} {seen : List CacheSight}

theorem nil : CacheSight.Seen stored [] where
  ordered := List.Pairwise.nil
  bounded := by rintro sight ⟨⟩
  whole := by rintro shown ⟨⟩

/-- Another set is stored. -/
theorem more (shown : CacheSight.Seen stored seen) (set : KeySet) :
    CacheSight.Seen (stored ++ [set]) seen where
  ordered := shown.ordered
  bounded sight member := by
    have := shown.bounded sight member
    rw [List.length_append, List.length_singleton]
    omega
  whole current member := by
    rcases shown.whole current member with start | ⟨n, installed, place, tagged⟩
    · exact Or.inl start
    · refine Or.inr ⟨n, installed, ?_, tagged⟩
      rw [numbered_concat]
      exact List.mem_append_left _ place

/-- Something as new as the latest set is seen. -/
theorem cons (shown : CacheSight.Seen stored seen) {sight : CacheSight}
    (latest : sight.number = stored.length)
    (whole : ∀ current, sight = .set current → current = .uninitialized ∨
      ∃ n set, (n, set) ∈ numbered stored ∧ current = { set with generation := n }) :
    CacheSight.Seen stored (sight :: seen) where
  ordered := by
    refine List.pairwise_cons.2 ⟨?_, shown.ordered⟩
    intro earlier member
    rw [latest]
    exact shown.bounded earlier member
  bounded other member := by
    rcases List.mem_cons.1 member with rfl | before
    · exact latest.le
    · exact shown.bounded other before
  whole current member := by
    rcases List.mem_cons.1 member with same | before
    · exact whole current same.symm
    · exact shown.whole current before

/-- A reader that loads the set in place sees nothing older than before. -/
theorem current (shown : CacheSight.Seen stored seen) :
    CacheSight.Seen stored (.set (KeyCache.behind stored).current :: seen) := by
  refine shown.cons (KeyCache.generation_current_behind stored) ?_
  rintro current same
  obtain rfl := CacheSight.set.inj same
  rcases KeyCache.current_behind stored with ⟨-, sentinel⟩ | ⟨before, set, rfl, shows⟩
  · exact Or.inl sentinel
  · refine Or.inr ⟨_, set, mem_numbered_concat before set, ?_⟩
    rw [shows, List.length_append, List.length_singleton]

end CacheSight.Seen

/-- The sets that a writer was given, in order. -/
def CacheWriter.given (writer : CacheWriter) : List KeySet :=
  writer.finished.reverse.map Prod.snd ++ writer.pending

namespace SharedCache

/-- What a writer's turn does, to the cache and the lock it finds. -/
inductive Moves (cache : KeyCache) (isLocked : Bool) :
    CacheWriter → KeyCache → Bool → CacheWriter → Prop
  | lock {set : KeySet} {rest : List KeySet} {finished : List (Nat × KeySet)}
      (unlocked : isLocked = false) :
      Moves cache isLocked ⟨set :: rest, .waiting, finished⟩ cache true
        ⟨set :: rest, .locked, finished⟩
  | count {set : KeySet} {rest : List KeySet} {finished : List (Nat × KeySet)} :
      Moves cache isLocked ⟨set :: rest, .locked, finished⟩
        ⟨cache.current, cache.generation + 1⟩ isLocked
        ⟨set :: rest, .counted (cache.generation + 1), finished⟩
  | store {set : KeySet} {rest : List KeySet} {finished : List (Nat × KeySet)} {g : Nat} :
      Moves cache isLocked ⟨set :: rest, .counted g, finished⟩
        ⟨{ set with generation := g }, cache.generation⟩ isLocked
        ⟨set :: rest, .stored g, finished⟩
  | release {set : KeySet} {rest : List KeySet} {finished : List (Nat × KeySet)} {g : Nat} :
      Moves cache isLocked ⟨set :: rest, .stored g, finished⟩ cache false
        ⟨rest, .waiting, (g, set) :: finished⟩

private theorem moves_of_writerStep? {cache cache' : KeyCache} {isLocked isLocked' : Bool}
    {writer next : CacheWriter}
    (stepped : writerStep? cache isLocked writer = some (cache', isLocked', next)) :
    Moves cache isLocked writer cache' isLocked' next := by
  unfold writerStep? at stepped
  split at stepped
  · cases stepped
  · split at stepped
    · cases stepped
    · next unlocked =>
      cases stepped
      exact .lock (Bool.eq_false_iff.2 unlocked)
  · cases stepped
    exact .count
  · cases stepped
    exact .store
  · cases stepped
    exact .release

/-- A turn of a writer is one of its moves, and leaves the other writers and the readers. -/
theorem moves_of_step? {s t : SharedCache} {i : Nat} (stepped : s.step? (.write i) = some t) :
    ∃ writer next, s.writers[i]? = some writer ∧
      Moves s.cache s.isLocked writer t.cache t.isLocked next ∧
      t.writers = s.writers.set i next ∧ t.readers = s.readers := by
  obtain ⟨writer, place, moved⟩ := Option.bind_eq_some_iff.1 stepped
  obtain ⟨⟨cache, isLocked, next⟩, step, rfl⟩ := Option.map_eq_some_iff.1 moved
  exact ⟨writer, next, place, moves_of_writerStep? step, rfl, rfl⟩

/-- What every turn keeps, every schedule keeps. -/
theorem run?_preserves {motive : SharedCache → Prop}
    (step : ∀ s turn t, motive s → s.step? turn = some t → motive t) {s t : SharedCache}
    {schedule : List CacheTurn} (ran : s.run? schedule = some t) (holds : motive s) : motive t := by
  induction schedule generalizing s with
  | nil =>
    obtain rfl := Option.some.inj ran
    exact holds
  | cons turn rest ih =>
    obtain ⟨next, stepped, later⟩ := Option.bind_eq_some_iff.1 ran
    exact ih later (step s turn next holds stepped)

/-- The installs that a writer has finished are added to those of the others. -/
theorem finished_set {writers : List CacheWriter} {i : Nat} {writer next : CacheWriter}
    {more : List (Nat × KeySet)} (place : writers[i]? = some writer)
    (finished : next.finished = more ++ writer.finished) :
    ((writers.set i next).flatMap CacheWriter.finished).Perm
      (more ++ writers.flatMap CacheWriter.finished) := by
  induction writers generalizing i with
  | nil => cases place
  | cons first others ih =>
    cases i with
    | zero =>
      obtain rfl := Option.some.inj place
      simp [finished]
    | succ i =>
      rw [List.set_cons_succ, List.flatMap_cons, List.flatMap_cons]
      have later := (ih place).append_left first.finished
      refine later.trans ?_
      rw [← List.append_assoc, ← List.append_assoc]
      exact List.perm_append_comm.append_right _

/-- How far the holder of the lock is, behind the sets that have been installed: what the cache
shows meanwhile, and which sets have been stored. -/
inductive Stage (installed : List KeySet) (cache : KeyCache) : CacheWriter → List KeySet → Prop
  | locked {set : KeySet} {rest : List KeySet} {finished : List (Nat × KeySet)}
      (shows : cache = .behind installed) :
      Stage installed cache ⟨set :: rest, .locked, finished⟩ installed
  | counted {set : KeySet} {rest : List KeySet} {finished : List (Nat × KeySet)}
      (shows : cache = ⟨(KeyCache.behind installed).current, installed.length + 1⟩) :
      Stage installed cache ⟨set :: rest, .counted (installed.length + 1), finished⟩ installed
  | stored {set : KeySet} {rest : List KeySet} {finished : List (Nat × KeySet)}
      (shows : cache = .behind (installed ++ [set])) :
      Stage installed cache ⟨set :: rest, .stored (installed.length + 1), finished⟩
        (installed ++ [set])

/-- At most one writer is inside its install: the one that holds the lock. -/
inductive Lock (s : SharedCache) (installed : List KeySet) : List KeySet → Prop
  | free (unlocked : s.isLocked = false) (cache : s.cache = .behind installed)
      (waiting : ∀ (i : Nat) (writer : CacheWriter), s.writers[i]? = some writer →
        writer.phase = .waiting) :
      Lock s installed installed
  | held {i : Nat} {holder : CacheWriter} {stored : List KeySet} (locked : s.isLocked = true)
      (place : s.writers[i]? = some holder) (stage : Stage installed s.cache holder stored)
      (waiting : ∀ (j : Nat) (writer : CacheWriter), j ≠ i → s.writers[j]? = some writer →
        writer.phase = .waiting) :
      Lock s installed stored

/-- What every turn keeps: the sets installed so far, in the order of their generations, those
stored so far, and what was seen of them. -/
structure Serial (s : SharedCache) (installed stored : List KeySet) : Prop where
  lock : s.Lock installed stored
  finished : s.finished.Perm (numbered installed)
  seen : ∀ seen ∈ s.readers, CacheSight.Seen stored seen

section

variable {s t : SharedCache} {installed stored : List KeySet}

/-- Whatever the holder of the lock is doing, readers are shown the last stored set. -/
theorem Lock.current (lock : s.Lock installed stored) :
    s.cache.current = (KeyCache.behind stored).current := by
  cases lock with
  | free _ cache => rw [cache]
  | held _ _ stage =>
    cases stage with
    | locked shows => rw [shows]
    | counted shows => rw [shows]
    | stored shows => rw [shows]

/-- Nobody installs while the lock is free. -/
theorem Lock.of_unlocked (lock : s.Lock installed stored) (unlocked : s.isLocked = false) :
    stored = installed ∧ s.cache = .behind installed := by
  cases lock with
  | free _ cache => exact ⟨rfl, cache⟩
  | held locked => cases unlocked.symm.trans locked

/-- A writer inside its install holds the lock. -/
theorem Lock.stage_of_not_waiting (lock : s.Lock installed stored) {i : Nat} {writer : CacheWriter}
    (place : s.writers[i]? = some writer) (inside : writer.phase ≠ .waiting) :
    s.isLocked = true ∧ Stage installed s.cache writer stored ∧
      ∀ (j : Nat) (other : CacheWriter), j ≠ i → s.writers[j]? = some other →
        other.phase = .waiting := by
  cases lock with
  | free _ _ waiting => exact absurd (waiting i writer place) inside
  | @held k holder _ locked here stage waiting =>
    by_cases same : i = k
    · subst same
      obtain rfl := Option.some.inj (place.symm.trans here)
      exact ⟨locked, stage, waiting⟩
    · exact absurd (waiting i writer same place) inside

/-- The turn of a writer keeps what it finds of sets, and stores one set more at most. -/
theorem Lock.write (lock : s.Lock installed stored) (finished : s.finished.Perm (numbered installed))
    {i : Nat} (stepped : s.step? (.write i) = some t) :
    ∃ installed' stored', t.Lock installed' stored' ∧ t.finished.Perm (numbered installed') ∧
      (stored' = stored ∨ ∃ set, stored' = stored ++ [set]) := by
  obtain ⟨writer, next, place, moves, writers, -⟩ := moves_of_step? stepped
  have here : t.writers[i]? = some next := by
    rw [writers]
    exact List.getElem?_set_self (List.getElem?_eq_some_iff.1 place).1
  have others (waiting : ∀ (j : Nat) (other : CacheWriter), j ≠ i → s.writers[j]? = some other →
      other.phase = .waiting) (j : Nat) (other : CacheWriter) (elsewhere : j ≠ i)
      (there : t.writers[j]? = some other) : other.phase = .waiting := by
    rw [writers, List.getElem?_set_ne elsewhere.symm] at there
    exact waiting j other elsewhere there
  have grown (more : List (Nat × KeySet)) (added : next.finished = more ++ writer.finished) :
      t.finished.Perm (more ++ numbered installed) := by
    have joined := finished_set place added
    rw [← writers] at joined
    exact joined.trans (finished.append_left more)
  have kept (same : next.finished = writer.finished) : t.finished.Perm (numbered installed) :=
    grown [] same
  generalize cacheAfter : t.cache = cache at moves
  generalize lockAfter : t.isLocked = isLocked at moves
  cases moves with
  | lock unlocked =>
    cases lock with
    | held locked => cases unlocked.symm.trans locked
    | free _ cache waiting =>
      refine ⟨installed, installed, ?_, kept rfl, Or.inl rfl⟩
      exact .held lockAfter here (.locked (cacheAfter.trans cache))
        (others fun j other _ => waiting j other)
  | count =>
    obtain ⟨locked, stage, waiting⟩ := lock.stage_of_not_waiting place (by simp)
    cases stage with
    | locked shows =>
      rw [shows, KeyCache.generation_behind] at cacheAfter here
      refine ⟨installed, installed, ?_, kept rfl, Or.inl rfl⟩
      exact .held (lockAfter.trans locked) here (.counted cacheAfter) (others waiting)
  | @store set =>
    obtain ⟨locked, stage, waiting⟩ := lock.stage_of_not_waiting place (by simp)
    cases stage with
    | counted shows =>
      have stored : t.cache = .behind (installed ++ [set]) := by
        rw [KeyCache.behind_concat, KeyCache.install, KeyCache.generation_behind, cacheAfter, shows]
      refine ⟨installed, installed ++ [set], ?_, kept rfl, Or.inr ⟨set, rfl⟩⟩
      exact .held (lockAfter.trans locked) here (.stored stored) (others waiting)
  | @release set =>
    obtain ⟨-, stage, waiting⟩ := lock.stage_of_not_waiting place (by simp)
    cases stage with
    | stored shows =>
      have joined := grown [(installed.length + 1, set)] rfl
      refine ⟨installed ++ [set], installed ++ [set], ?_, ?_, Or.inl rfl⟩
      · refine .free lockAfter (cacheAfter.trans shows) fun j other there => ?_
        by_cases same : j = i
        · subst same
          obtain rfl := Option.some.inj (here.symm.trans there)
          rfl
        · exact others waiting j other same there
      · rw [numbered_concat]
        exact joined.trans List.perm_append_comm

/-- A reader that takes its turn sees the last stored set, or its generation. -/
theorem Serial.read (serial : s.Serial installed stored) {j : Nat} {sight : CacheSight}
    (noted : s.noteSight? j sight = some t)
    (shown : ∀ seen, CacheSight.Seen stored seen → CacheSight.Seen stored (sight :: seen)) :
    t.Serial installed stored := by
  obtain ⟨seen, place, rfl⟩ := Option.map_eq_some_iff.1 noted
  refine ⟨?_, serial.finished, ?_⟩
  · cases serial.lock with
    | free unlocked cache waiting => exact .free unlocked cache waiting
    | held locked place stage waiting => exact .held locked place stage waiting
  · intro other member
    rcases List.mem_or_eq_of_mem_set member with before | rfl
    · exact serial.seen other before
    · exact shown seen (serial.seen seen (List.mem_of_getElem? place))

/-- A turn keeps the installs in series. -/
theorem Serial.step (serial : s.Serial installed stored) {turn : CacheTurn}
    (stepped : s.step? turn = some t) : ∃ installed' stored', t.Serial installed' stored' := by
  cases turn with
  | write i =>
    obtain ⟨installed', stored', lock, finished, more⟩ :=
      serial.lock.write serial.finished stepped
    obtain ⟨_, _, _, _, _, readers⟩ := moves_of_step? stepped
    refine ⟨installed', stored', lock, finished, ?_⟩
    intro seen member
    have before := serial.seen seen (readers ▸ member)
    rcases more with rfl | ⟨set, rfl⟩
    · exact before
    · exact before.more set
  | loadSet j =>
    refine ⟨installed, stored, serial.read stepped fun seen shown => ?_⟩
    rw [serial.lock.current]
    exact shown.current
  | readGeneration j =>
    have unlocked := isLocked_of_readGeneration stepped
    obtain ⟨rfl, cache⟩ := serial.lock.of_unlocked unlocked
    simp only [step?, unlocked, Bool.false_eq_true, if_false] at stepped
    refine ⟨stored, stored, serial.read stepped fun seen shown => ?_⟩
    refine shown.cons ?_ fun current same => by cases same
    rw [CacheSight.number, cache, KeyCache.generation_behind]

/-- Before the first turn nothing is installed or stored. -/
theorem Serial.start (work : List (List KeySet)) (readers : Nat) :
    (start .new work readers).Serial [] [] where
  lock := by
    refine .free rfl rfl fun i writer place => ?_
    obtain ⟨sets, _, rfl⟩ := List.mem_map.1 (List.mem_of_getElem? place)
    rfl
  finished := by
    have none : (SharedCache.start .new work readers).finished = [] := by
      simp [SharedCache.finished, SharedCache.start]
    rw [none]
    exact List.Perm.refl []
  seen := by
    intro seen member
    rw [List.eq_of_mem_replicate member]
    exact .nil

/-- An install has a generation: it has returned it, or is about to and has stored its set. -/
def Tags (s : SharedCache) (generation : Nat) (set : KeySet) : Prop :=
  (generation, set) ∈ s.finished ∨
    ∃ writer ∈ s.writers, writer.phase = .stored generation ∧ writer.pending.head? = some set

/-- An install has a generation just if its set was stored under that number. Of the writers only
the holder of the lock can have stored a set without having returned. -/
theorem Serial.tags_iff (serial : s.Serial installed stored) (generation : Nat) (set : KeySet) :
    s.Tags generation set ↔ (generation, set) ∈ numbered stored := by
  have ended : (generation, set) ∈ s.finished ↔ (generation, set) ∈ numbered installed :=
    serial.finished.mem_iff
  unfold Tags
  rw [ended]
  cases serial.lock with
  | free _ _ waiting =>
    refine or_iff_left ?_
    rintro ⟨writer, member, phase, -⟩
    obtain ⟨i, place⟩ := List.mem_iff_getElem?.1 member
    cases (waiting i writer place).symm.trans phase
  | @held i holder _ _ place stage waiting =>
    have only : (∃ writer ∈ s.writers, writer.phase = .stored generation ∧
        writer.pending.head? = some set) ↔
        holder.phase = .stored generation ∧ holder.pending.head? = some set := by
      constructor
      · rintro ⟨writer, member, phase, pending⟩
        obtain ⟨j, there⟩ := List.mem_iff_getElem?.1 member
        by_cases same : j = i
        · subst same
          obtain rfl := Option.some.inj (place.symm.trans there)
          exact ⟨phase, pending⟩
        · cases (waiting j writer same there).symm.trans phase
      · exact fun holds => ⟨holder, List.mem_of_getElem? place, holds⟩
    rw [only]
    cases stage with
    | locked => simp
    | counted => simp
    | stored => simp [numbered_concat, eq_comm]

private theorem Moves.given {cache cache' : KeyCache} {isLocked isLocked' : Bool}
    {writer next : CacheWriter} (moves : Moves cache isLocked writer cache' isLocked' next) :
    next.given = writer.given := by
  cases moves <;> simp [CacheWriter.given]

private theorem given_of_step? {turn : CacheTurn} (stepped : s.step? turn = some t) :
    t.writers.map CacheWriter.given = s.writers.map CacheWriter.given := by
  cases turn with
  | write i =>
    obtain ⟨writer, next, place, moves, writers, -⟩ := moves_of_step? stepped
    have here : (s.writers.map CacheWriter.given)[i]? = some next.given := by
      rw [List.getElem?_map, place, moves.given, Option.map_some]
    obtain ⟨bound, same⟩ := List.getElem?_eq_some_iff.1 here
    rw [writers, List.map_set, ← same, List.set_getElem_self]
  | loadSet j =>
    obtain ⟨seen, -, rfl⟩ := Option.map_eq_some_iff.1 stepped
    rfl
  | readGeneration j =>
    have unlocked := isLocked_of_readGeneration stepped
    simp only [step?, unlocked, Bool.false_eq_true, if_false] at stepped
    obtain ⟨seen, -, rfl⟩ := Option.map_eq_some_iff.1 stepped
    rfl

/-- When nobody has anything left to do, as many installs have ended as there were sets. -/
theorem length_finished_of_isDone {work : List (List KeySet)}
    (given : s.writers.map CacheWriter.given = work) (done : s.isDone = true) :
    s.finished.length = (work.map List.length).sum := by
  have each : ∀ writer ∈ s.writers, writer.finished.length = writer.given.length := by
    intro writer member
    have empty : writer.pending = [] :=
      List.isEmpty_iff.1 (List.all_eq_true.1 done writer member)
    simp [CacheWriter.given, empty]
  rw [← given, List.map_map, finished, List.length_flatMap]
  exact congrArg List.sum (List.map_congr_left each)

private theorem Serial.waiting_of_isDone (serial : s.Serial installed stored)
    (done : s.isDone = true) : ∀ writer ∈ s.writers, writer.phase = .waiting := by
  intro writer member
  obtain ⟨i, place⟩ := List.mem_iff_getElem?.1 member
  have empty : writer.pending = [] := List.isEmpty_iff.1 (List.all_eq_true.1 done writer member)
  by_contra inside
  obtain ⟨-, stage, -⟩ := serial.lock.stage_of_not_waiting place inside
  cases stage <;> cases empty

/-- As long as somebody has something left to do, a writer can take its turn. -/
theorem Serial.exists_write (serial : s.Serial installed stored) (unfinished : s.isDone = false) :
    ∃ i, (s.step? (.write i)).isSome = true := by
  cases serial.lock with
  | free unlocked _ waiting =>
    obtain ⟨writer, member, busy⟩ := List.all_eq_false.1 unfinished
    obtain ⟨i, place⟩ := List.mem_iff_getElem?.1 member
    have phase := waiting i writer place
    obtain ⟨pending, _, finished⟩ := writer
    obtain rfl : _ = InstallPhase.waiting := phase
    cases pending with
    | nil => simp at busy
    | cons set rest => exact ⟨i, by simp [step?, place, writerStep?, unlocked]⟩
  | @held i holder _ _ place stage =>
    refine ⟨i, ?_⟩
    cases stage with
    | locked => simp [step?, place, writerStep?]
    | counted => simp [step?, place, writerStep?]
    | stored => simp [step?, place, writerStep?]

/-- When nobody is inside an install, the cache is the one behind all of them. -/
theorem Serial.settled (serial : s.Serial installed stored)
    (waiting : ∀ writer ∈ s.writers, writer.phase = .waiting) :
    (s.finished.map Prod.fst).Perm (List.range' 1 s.finished.length) ∧
      s.cache.generation = s.finished.length ∧
      (s.finished = [] ∧ s.cache.current = .uninitialized ∨
        ∃ set, (s.finished.length, set) ∈ s.finished ∧
          s.cache.current = { set with generation := s.finished.length }) := by
  have length : s.finished.length = installed.length := by
    rw [serial.finished.length_eq, length_numbered]
  have cache : s.cache = .behind installed := by
    cases serial.lock with
    | free _ cache => exact cache
    | held _ place stage =>
      have phase := waiting _ (List.mem_of_getElem? place)
      cases stage <;> cases phase
  rw [length, cache]
  refine ⟨?_, KeyCache.generation_behind installed, ?_⟩
  · rw [← map_fst_numbered]
    exact serial.finished.map Prod.fst
  · rcases KeyCache.current_behind installed with ⟨rfl, sentinel⟩ | ⟨before, set, rfl, shows⟩
    · exact Or.inl ⟨List.eq_nil_of_length_eq_zero length, sentinel⟩
    · refine Or.inr ⟨set, ?_, shows⟩
      rw [serial.finished.mem_iff, List.length_append, List.length_singleton]
      exact mem_numbered_concat before set

end

/-- Installs and reads in any order. -/
theorem run?_serial {work : List (List KeySet)} {readers : Nat} {schedule : List CacheTurn}
    {s : SharedCache} (ran : (start .new work readers).run? schedule = some s) :
    ∃ installed stored, s.Serial installed stored :=
  run?_preserves (motive := fun s => ∃ installed stored, s.Serial installed stored)
    (fun _ _ _ ⟨_, _, serial⟩ stepped => serial.step stepped) ran ⟨[], [], .start work readers⟩

private theorem run?_given {work : List (List KeySet)} {readers : Nat} {schedule : List CacheTurn}
    {s : SharedCache} (ran : (start .new work readers).run? schedule = some s) :
    s.writers.map CacheWriter.given = work := by
  refine run?_preserves (motive := fun s => s.writers.map CacheWriter.given = work)
    (fun _ _ _ given stepped => (given_of_step? stepped).trans given) ran ?_
  simp [start, CacheWriter.given, Function.comp_def]

/-- Whoever takes a turn and when, the installs return different generations, and when those that
have begun have ended, these are the numbers from one on, and the set with the last one is current.
A reader is shown the sentinel or a set as some install has tagged it, and never anything older than
what it has seen before, be it a set or a generation. -/
theorem installs_serialized {work : List (List KeySet)} {readers : Nat} {schedule : List CacheTurn}
    {s : SharedCache} (ran : (start .new work readers).run? schedule = some s) :
    (s.finished.map Prod.fst).Nodup ∧
    ((∀ writer ∈ s.writers, writer.phase = .waiting) →
      (s.finished.map Prod.fst).Perm (List.range' 1 s.finished.length) ∧
      s.cache.generation = s.finished.length ∧
      (s.finished = [] ∧ s.cache.current = .uninitialized ∨
        ∃ set, (s.finished.length, set) ∈ s.finished ∧
          s.cache.current = { set with generation := s.finished.length })) ∧
    (s.isDone = true → (∀ writer ∈ s.writers, writer.phase = .waiting) ∧
      s.finished.length = (work.map List.length).sum) ∧
    (s.isDone = false → ∃ i, (s.step? (.write i)).isSome = true) ∧
    s.writers.map CacheWriter.given = work ∧
    (∀ generation set set', s.Tags generation set → s.Tags generation set' → set = set') ∧
    ∀ seen ∈ s.readers,
      (∀ shown, .set shown ∈ seen → shown = .uninitialized ∨
        ∃ generation set, s.Tags generation set ∧ shown = { set with generation := generation }) ∧
      seen.Pairwise fun later earlier => earlier.number ≤ later.number := by
  obtain ⟨installed, stored, serial⟩ := run?_serial ran
  have given := run?_given ran
  refine ⟨?_, serial.settled, ?_, serial.exists_write, given, ?_, ?_⟩
  · have numbers := serial.finished.map Prod.fst
    rw [map_fst_numbered] at numbers
    exact numbers.nodup_iff.2 List.nodup_range'
  · exact fun done => ⟨serial.waiting_of_isDone done, length_finished_of_isDone given done⟩
  · intro generation set set' left right
    exact numbered_unique ((serial.tags_iff generation set).1 left)
      ((serial.tags_iff generation set').1 right)
  · intro seen member
    have shown := serial.seen seen member
    refine ⟨fun current present => ?_, shown.ordered⟩
    rcases shown.whole current present with sentinel | ⟨generation, set, place, tagged⟩
    · exact Or.inl sentinel
    · exact Or.inr ⟨generation, set, (serial.tags_iff generation set).2 place, tagged⟩

/-- Two writers, and a reader that looks before, within and behind their installs. -/
theorem installs_serialized_interleaved :
    let schedule : List CacheTurn := [.loadSet 0, .write 1, .write 1, .loadSet 0, .write 1,
      .loadSet 0, .write 1, .readGeneration 0, .write 0, .write 0, .loadSet 0, .write 0, .write 0,
      .loadSet 0]
    ∃ s, (start .new [[.empty 3], [.empty 5]] 1).run? schedule = some s ∧ s.isDone = true ∧
      s.readers.map (List.map CacheSight.number) = [[2, 1, 1, 1, 0, 0]] ∧
      (s.finished.map Prod.fst).Perm [1, 2] ∧
      s.cache.current = { KeySet.empty 3 with generation := 2 } ∧
      ∀ seen ∈ s.readers, seen.Pairwise fun later earlier => earlier.number ≤ later.number := by
  intro schedule
  have evaluated : ((start .new [[.empty 3], [.empty 5]] 1).run? schedule).any (fun s =>
      s.isDone && s.readers.map (List.map CacheSight.number) == [[2, 1, 1, 1, 0, 0]] &&
        s.cache.current == { KeySet.empty 3 with generation := 2 }) = true := by
    decide +kernel
  obtain ⟨s, ran, facts⟩ := (Option.any_eq_true _ _).1 evaluated
  simp only [Bool.and_eq_true, beq_iff_eq] at facts
  obtain ⟨⟨done, numbers⟩, current⟩ := facts
  obtain ⟨-, settled, total, -, -, -, seen⟩ := installs_serialized ran
  obtain ⟨waiting, length⟩ := total done
  obtain ⟨returned, -, -⟩ := settled waiting
  rw [length] at returned
  exact ⟨s, ran, done, numbers, returned, current, fun sights member => (seen sights member).2⟩

end SharedCache

end TokenGate
