import Mathlib
import TokenGate.Token.Session
import TokenGate.Proofs.Key.Installs

/-! # What a session remembers

Whatever a session was told before, its cache is that of the sets it installed, one behind the
other, and its snapshots are those it took. A verdict depends on the last installed set and the
clock alone, and the counters tell how many verdicts there were of each kind. -/

namespace TokenGate

namespace Validator

/-- The counter of the verdicts with a result. -/
def verdictCounter (result : String) : MetricKey :=
  ⟨"keystone_token_validations_total", [("result", result)]⟩

theorem verdictMetric_eq (verdict : Except TokenRejection Claims) :
    verdictMetric verdict = .count (verdictCounter (resultLabel verdict)) := rfl

theorem verdictCounter_inj {result other : String} :
    verdictCounter result = verdictCounter other ↔ result = other := by
  simp [verdictCounter]

/-- Of a key set only the keys matter to a verdict, neither its generation nor its time. -/
theorem validate_congr_keys (check : SignatureCheck) (v : Validator) {set set' : KeySet}
    (same : set.keys = set'.keys) (now : UInt64) (token : String) :
    v.validate check set now token = v.validate check set' now token := by
  have lookups : ∀ kid, set.get? kid = set'.get? kid := fun kid => by
    rw [KeySet.get?, KeySet.get?, same]
  have read : ∀ t, v.judgeRead check set now t = v.judgeRead check set' now t := fun t => by
    simp only [judgeRead, lookups]
  have judged : v.judge check set now (Text.trim token) =
      v.judge check set' now (Text.trim token) := by
    simp only [judge, read]
  rw [validate, validate, judged]

end Validator

namespace Session

/-- A session before its first command. -/
def start (v : Validator) (now : UInt64) : Session := { validator := v, now := now }

/-- The set that a command brings into the cache, if it brings one. -/
def given? (s : Session) : Command → Option KeySet
  | .install document time => (KeySet.ofDocument document time).1.toOption
  | .installSet set => some set
  | .reinstall slot => some ((s.held? slot).getD .uninitialized)
  | _ => none

def installs (check : SignatureCheck) (s : Session) : List Command → List KeySet
  | [] => []
  | command :: rest =>
    (s.given? command).toList ++ installs check (s.step check command).1 rest

/-- The answer reports an install. -/
def Answer.isInstalled : Answer → Bool
  | installed _ => true
  | _ => false

/-- The answer is a verdict with a result. -/
def Answer.tells (result : String) : Answer → Bool
  | verdict v => Validator.resultLabel v == result
  | _ => false

/-- A snapshot was taken under a name, and none under that name behind it. -/
def Took (check : SignatureCheck) (s : Session) (commands : List Command) (slot : String)
    (set : KeySet) : Prop :=
  ∃ before after, commands = before ++ .hold slot :: after ∧ .hold slot ∉ after ∧
    set = (s.run check before).1.cache.current

/-- What a command does to a session, and what is answered. -/
inductive Does (check : SignatureCheck) (s : Session) : Command → Session × Answer × Log → Prop
  | install {command : Command} {set : KeySet} {log : Log} (given : s.given? command = some set) :
      Does check s command
        ({ s with cache := s.cache.install set }, .installed (s.cache.generation + 1), log)
  | refuse {document : List UInt8} {time : SystemTime} {reason : FetchError} {log : Log}
      (bad : (KeySet.ofDocument document time).1 = .error reason) :
      Does check s (.install document time) (s, .refused reason, log)
  | hold {slot : String} :
      Does check s (.hold slot)
        ({ s with held := Json.put s.held slot s.cache.current }, .held slot, [])
  | judge {token : String} {v : Except TokenRejection Claims} {log : Log}
      (judged : s.validator.validate check s.cache.current s.now token = (v, log)) :
      Does check s (.validate token)
        ({ s with metrics := s.metrics.apply (Validator.verdictMetric v) }, .verdict v, log)
  | other {command : Command} {now : UInt64} {answer : Answer} (given : s.given? command = none)
      (keeps : ∀ slot, command ≠ .hold slot) (installs : answer.isInstalled = false)
      (tells : ∀ result, answer.tells result = false) :
      Does check s command ({ s with now := now }, answer, [])

section Step

variable {check : SignatureCheck} {s : Session} {command : Command} {after : Session × Answer × Log}

/-- Every command does one of the things told. -/
theorem does (check : SignatureCheck) (s : Session) (command : Command) :
    Does check s command (s.step check command) := by
  cases command with
  | install document time =>
    simp only [step]
    rcases read : KeySet.ofDocument document time with ⟨reason | set, log⟩
    · exact .refuse (congrArg Prod.fst read)
    · exact .install (by rw [given?, read]; rfl)
  | installSet set => exact .install rfl
  | reinstall slot => exact .install rfl
  | hold slot => exact .hold
  | validate token => exact .judge rfl
  | held slot => exact .other rfl (fun _ => nofun) rfl (fun _ => rfl)
  | setClock now => exact .other rfl (fun _ => nofun) rfl (fun _ => rfl)
  | advance seconds => exact .other rfl (fun _ => nofun) rfl (fun _ => rfl)
  | state => exact .other rfl (fun _ => nofun) rfl (fun _ => rfl)
  | wait => exact .other rfl (fun _ => nofun) rfl (fun _ => rfl)
  | describe => exact .other rfl (fun _ => nofun) rfl (fun _ => rfl)

theorem Does.given?_of_refuse {document : List UInt8} {time : SystemTime} {reason : FetchError}
    (bad : (KeySet.ofDocument document time).1 = .error reason) :
    s.given? (.install document time) = none := by
  rw [given?, bad]
  rfl

private theorem Does.validator (does : Does check s command after) :
    after.1.validator = s.validator := by
  cases does <;> rfl

/-- The cache takes the sets that are brought and no others. -/
theorem Does.cache (does : Does check s command after) :
    after.1.cache = s.cache.installAll (s.given? command).toList := by
  cases does with
  | install given => rw [given]; rfl
  | refuse bad => rw [given?_of_refuse bad]; rfl
  | hold => rfl
  | judge judged => rfl
  | other given keeps installs tells => rw [given]; rfl

private theorem Does.isInstalled (does : Does check s command after) :
    after.2.1.isInstalled = (s.given? command).isSome := by
  cases does with
  | install given => rw [given]; rfl
  | refuse bad => rw [given?_of_refuse bad]; rfl
  | hold => rfl
  | judge judged => rfl
  | other given keeps installs tells => rw [given, installs]; rfl

private theorem Does.held?_of_ne (does : Does check s command after) {slot : String}
    (elsewhere : command ≠ .hold slot) : after.1.held? slot = s.held? slot := by
  cases does with
  | @hold place =>
    have apart : place ≠ slot := fun same => elsewhere (same ▸ rfl)
    rw [held?, Json.lookup?_put, if_neg apart, held?]
  | install given => rfl
  | refuse bad => rfl
  | judge judged => rfl
  | other given keeps installs tells => rfl

private theorem held?_hold (check : SignatureCheck) (s : Session) (slot : String) :
    (s.step check (.hold slot)).1.held? slot = some s.cache.current := by
  rw [step, held?, Json.lookup?_put, if_pos rfl]

/-- A verdict is counted under its result, and nothing else is counted. -/
theorem Does.value (does : Does check s command after) (result : String) :
    after.1.metrics.value (Validator.verdictCounter result) =
      s.metrics.value (Validator.verdictCounter result) +
        if after.2.1.tells result then 1 else 0 := by
  cases does with
  | @judge token v log judged =>
    simp only [Validator.verdictMetric_eq, Metrics.value_count, Validator.verdictCounter_inj,
      Answer.tells, beq_iff_eq]
  | install given => rfl
  | refuse bad => rfl
  | hold => rfl
  | other given keeps installs tells => simp [tells result]

end Step

section Run

variable (check : SignatureCheck) (s : Session)

/-- A command more is carried out behind the others. -/
theorem run_concat (commands : List Command) (command : Command) :
    s.run check (commands ++ [command]) =
      (((s.run check commands).1.step check command).1,
        (s.run check commands).2 ++ [((s.run check commands).1.step check command).2]) := by
  induction commands generalizing s with
  | nil => rfl
  | cons first rest ih => simp only [List.cons_append, run, ih]

theorem installs_concat (commands : List Command) (command : Command) :
    s.installs check (commands ++ [command]) =
      s.installs check commands ++ ((s.run check commands).1.given? command).toList := by
  induction commands generalizing s with
  | nil => simp [installs, run]
  | cons first rest ih => simp only [List.cons_append, installs, ih, run, List.append_assoc]

theorem validator_run (commands : List Command) :
    (s.run check commands).1.validator = s.validator := by
  induction commands using List.reverseRecOn with
  | nil => rfl
  | append_singleton commands command ih =>
    rw [run_concat, (does check _ command).validator, ih]

/-- The cache is that behind the sets that the commands bring. -/
theorem cache_run (commands : List Command) :
    (s.run check commands).1.cache = s.cache.installAll (s.installs check commands) := by
  induction commands using List.reverseRecOn with
  | nil => rfl
  | append_singleton commands command ih =>
    rw [run_concat, (does check _ command).cache, ih, installs_concat]
    simp only [KeyCache.installAll, List.foldl_append]

private theorem length_installs (commands : List Command) :
    (s.installs check commands).length =
      (s.run check commands).2.countP fun answer => answer.1.isInstalled := by
  induction commands using List.reverseRecOn with
  | nil => rfl
  | append_singleton commands command ih =>
    have answered := (does check (s.run check commands).1 command).isInstalled
    rw [installs_concat, run_concat, List.length_append, List.countP_append, ih,
      List.countP_singleton, answered]
    cases (s.run check commands).1.given? command <;> rfl

/-- The counter of a result counts the answers with it. -/
theorem value_run (commands : List Command) (result : String) :
    (s.run check commands).1.metrics.value (Validator.verdictCounter result) =
      s.metrics.value (Validator.verdictCounter result) +
        (s.run check commands).2.countP fun answer => answer.1.tells result := by
  induction commands using List.reverseRecOn with
  | nil => rfl
  | append_singleton commands command ih =>
    rw [run_concat, (does check _ command).value, ih, List.countP_append, List.countP_singleton]
    omega

theorem took_concat (commands : List Command) (command : Command) (slot : String) (set : KeySet) :
    s.Took check (commands ++ [command]) slot set ↔
      command = .hold slot ∧ set = (s.run check commands).1.cache.current ∨
        command ≠ .hold slot ∧ s.Took check commands slot set := by
  constructor
  · rintro ⟨before, after, split, last, taken⟩
    rcases List.eq_nil_or_concat after with rfl | ⟨between, final, rfl⟩
    · obtain ⟨rfl, same⟩ := List.append_inj' split rfl
      exact Or.inl ⟨List.singleton_inj.1 same, taken⟩
    · rw [List.concat_eq_append] at split last
      rw [← List.cons_append, ← List.append_assoc] at split
      obtain ⟨rfl, same⟩ := List.append_inj' split rfl
      obtain rfl := List.singleton_inj.1 same
      have earlier : .hold slot ∉ between := fun inside => last (List.mem_append_left _ inside)
      have elsewhere : command ≠ .hold slot := fun here => last (by simp [here])
      exact Or.inr ⟨elsewhere, before, between, rfl, earlier, taken⟩
  · rintro (⟨rfl, taken⟩ | ⟨elsewhere, before, after, rfl, last, taken⟩)
    · exact ⟨commands, [], rfl, List.not_mem_nil, taken⟩
    · refine ⟨before, after ++ [command], by simp, ?_, taken⟩
      intro inside
      rcases List.mem_append.1 inside with inside | final
      · exact last inside
      · exact elsewhere (List.mem_singleton.1 final).symm

/-- A name stands for the snapshot that was last taken under it, whatever was done since. -/
theorem held?_run (fresh : s.held = []) (commands : List Command) (slot : String) (set : KeySet) :
    (s.run check commands).1.held? slot = some set ↔ s.Took check commands slot set := by
  induction commands using List.reverseRecOn with
  | nil =>
    have without : ¬ s.Took check [] slot set := fun ⟨before, after, split, _⟩ => by simp at split
    simp [run, held?, fresh, Json.lookup?, without]
  | append_singleton commands command ih =>
    rw [took_concat, run_concat]
    by_cases here : command = .hold slot
    · subst here
      simp only [held?_hold, Option.some.injEq, ne_eq, not_true_eq_false, false_and, or_false,
        true_and, eq_comm]
    · rw [(does check _ command).held?_of_ne here, ih]
      simp only [here, false_and, false_or, ne_eq, not_false_eq_true, true_and]

end Run

/-- What a session holds behind some commands: the cache of the sets it installed, the snapshots it
took, and a count of the verdicts it gave. -/
structure Remembers (check : SignatureCheck) (first : Session) (commands : List Command)
    (session : Session) : Prop where
  installs : session.cache.generation =
    (first.run check commands).2.countP fun answer => answer.1.isInstalled
  tagged : session.cache.current.generation = session.cache.generation
  sentinel : first.installs check commands = [] → session.cache.current = .uninitialized
  last : ∀ set, (first.installs check commands).getLast? = some set →
    session.cache.current.keys = set.keys ∧ session.cache.current.fetchedAt = set.fetchedAt
  snapshots : ∀ slot set, session.held? slot = some set ↔ first.Took check commands slot set
  verdicts : ∀ result, session.metrics.value (Validator.verdictCounter result) =
    (first.run check commands).2.countP fun answer => answer.1.tells result

section Start

variable (check : SignatureCheck) (v : Validator) (now : UInt64)

theorem cache_run_start (commands : List Command) :
    ((start v now).run check commands).1.cache =
      .behind ((start v now).installs check commands) :=
  cache_run check (start v now) commands

/-- A session remembers its installs, the last snapshot under every name, and how often it has told
each result. -/
theorem remembers_run (commands : List Command) :
    Remembers check (start v now) commands ((start v now).run check commands).1 := by
  have cache := cache_run_start check v now commands
  refine ⟨?_, ?_, ?_, ?_, fun slot set => held?_run check _ rfl commands slot set, fun result => ?_⟩
  · rw [cache, KeyCache.generation_behind, length_installs]
  · rw [cache, KeyCache.generation_behind, KeyCache.generation_current_behind]
  · intro none
    rw [cache, none]
    rfl
  · intro set last
    rcases KeyCache.current_behind ((start v now).installs check commands) with
      ⟨none, _⟩ | ⟨before, final, sets, shown⟩
    · simp [none] at last
    · obtain rfl : final = set := by simpa [sets] using last
      rw [cache, shown]
      exact ⟨rfl, rfl⟩
  · rw [value_run]
    exact Nat.zero_add _

/-- The cache that only ever got one set, or none. -/
theorem cache_run_installSet (last : Option KeySet) :
    ((start v now).run check (last.toList.map .installSet)).1.cache = .behind last.toList := by
  cases last <;> rfl

/-- A verdict is the one that a session gives which never did anything but install the last set. -/
theorem verdict_run (commands : List Command) (token : String) :
    (((start v now).run check commands).1.step check (.validate token)).2 =
      (((start v ((start v now).run check commands).1.now).run check
        (((start v now).installs check commands).getLast?.toList.map .installSet)).1.step check
          (.validate token)).2 := by
  set session := ((start v now).run check commands).1 with session_def
  set last := ((start v now).installs check commands).getLast? with last_def
  have same : session.cache.current.keys =
      ((start v session.now).run check (last.toList.map .installSet)).1.cache.current.keys := by
    rw [session_def, cache_run_start, KeyCache.keys_current_behind, ← last_def,
      cache_run_installSet]
  have clock : ((start v session.now).run check (last.toList.map .installSet)).1.now =
      session.now := by
    cases last <;> rfl
  have judged := Validator.validate_congr_keys check v same session.now token
  have validator : session.validator = v := validator_run check (start v now) commands
  have validator' : ((start v session.now).run check (last.toList.map .installSet)).1.validator =
      v := validator_run check (start v session.now) _
  simp only [step, validator, validator', clock, judged]

/-- Behind every sequence of commands the cache, the snapshots and the counters are those of the
commands. Of the next command, a refused document changes nothing, a verdict only its counter, and
which verdict it is hangs on the last installed set and the clock. A snapshot that is installed
again gives its verdicts again. -/
theorem history_kept (commands : List Command) :
    let session := ((start v now).run check commands).1
    let last := ((start v now).installs check commands).getLast?
    Remembers check (start v now) commands session ∧
    (∀ command, (start v now).run check (commands ++ [command]) =
      ((session.step check command).1,
        ((start v now).run check commands).2 ++ [(session.step check command).2])) ∧
    (∀ document time reason, (session.step check (.install document time)).2.1 = .refused reason →
      (session.step check (.install document time)).1 = session) ∧
    ∀ token,
      (session.step check (.validate token)).1.cache = session.cache ∧
      (session.step check (.validate token)).1.now = session.now ∧
      (session.step check (.validate token)).1.held = session.held ∧
      (session.step check (.validate token)).2 =
        (((start v session.now).run check (last.toList.map .installSet)).1.step check
          (.validate token)).2 ∧
      ∀ slot set, session.held? slot = some set →
        ((session.step check (.reinstall slot)).1.step check (.validate token)).2.1 =
          .verdict (v.validate check set session.now token).1 := by
  intro session last
  refine ⟨remembers_run check v now commands, run_concat check _ commands, ?_,
    fun token => ⟨rfl, rfl, rfl, ?_, ?_⟩⟩
  · intro document time reason refused
    rcases read : KeySet.ofDocument document time with ⟨_ | set, log⟩
    · simp only [step, read]
    · simp only [step, read] at refused
      cases refused
  · exact verdict_run check v now commands token
  · intro slot set taken
    have validator : session.validator = v := validator_run check (start v now) commands
    have same : (session.cache.install set).current.keys = set.keys := rfl
    have judged := Validator.validate_congr_keys check v same session.now token
    simp only [step, taken, Option.getD_some, withSet, validator, judged]

end Start

end Session

end TokenGate
