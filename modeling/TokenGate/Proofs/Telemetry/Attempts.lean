import Mathlib
import TokenGate.Proofs.Result
import TokenGate.Telemetry.Outlet

/-! # Attempts to set telemetry up

What an attempt comes to is decided by the name of the service, by what the reader of filters makes
of the texts, and by whether an earlier attempt succeeded. The first attempt without fault sets the
outlet, whatever was tried before it, and nothing that is done later frees it again. -/

namespace TokenGate.Telemetry

/-! ## The text that counts -/

section Reading

variable (read : FilterReader)

/-- The text is a filter. -/
def Parses (text : String) : Prop := ∃ f, read text = .ok f

/-- The reader gives no answer for the text. -/
def GivesUp (text : String) : Prop := ∃ e, read text = .error e ∧ e.isFatal = true

namespace Config

/-- The service has a name that is more than blanks. -/
def Named (c : Config) : Prop := Text.blank c.serviceName = false

/-- The text that counts: the environment's where there is one and it is a filter, else the
configured one. -/
def effective (c : Config) (ambient : Option String) : String :=
  match ambient with
  | some text => if (read text).isOk then text else c.logLevel
  | none => c.logLevel

/-- The reader gives no answer for one of the texts that it is asked about. -/
def Fatal (c : Config) (ambient : Option String) : Prop :=
  (∃ text ∈ ambient, GivesUp read text) ∨ GivesUp read (c.effective read ambient)

variable {read} {c : Config} {ambient : Option String}

private theorem not_fatal_of_total (total : ∀ text, ¬ GivesUp read text) :
    ¬ c.Fatal read ambient := by
  rintro (⟨text, -, gives⟩ | gives)
  · exact total text gives
  · exact total _ gives

/-- What asking for the filter of a configuration can come to. -/
inductive Asks (read : FilterReader) (c : Config) (ambient : Option String) :
    Except DirectiveError Filter → Prop
  | gaveUp {e : DirectiveError} (fatal : c.Fatal read ambient) (gaveUp : e.isFatal = true) :
      Asks read c ambient (.error e)
  | answered (sound : ¬ c.Fatal read ambient) :
      Asks read c ambient (read (c.effective read ambient))

/-- The configured text counts, and is asked about, where the environment's gets an answer and is no
filter, or is absent. -/
theorem asks_of_configured (counts : c.effective read ambient = c.logLevel)
    (answered : ∀ text ∈ ambient, ¬ GivesUp read text) :
    c.Asks read ambient (read c.logLevel) := by
  by_cases gives : GivesUp read c.logLevel
  · obtain ⟨e, reading, fatal⟩ := gives
    have gives : GivesUp read (c.effective read ambient) := ⟨e, by rw [counts, reading], fatal⟩
    rw [reading]
    exact .gaveUp (Or.inr gives) fatal
  · have sound : ¬ c.Fatal read ambient := by
      rintro (⟨text, member, givesUp⟩ | givesUp)
      · exact answered text member givesUp
      · exact gives (counts ▸ givesUp)
    rw [← counts]
    exact .answered sound

/-- The filter of a configuration is that of the text that counts, unless the reader gives up. -/
theorem asks_filter (read : FilterReader) (c : Config) (ambient : Option String) :
    c.Asks read ambient (c.filter read ambient) := by
  cases ambient with
  | none => exact asks_of_configured rfl nofun
  | some text =>
    cases reading : read text with
    | ok f =>
      have counts : c.effective read (some text) = text := by
        simp [effective, reading, Except.isOk, Except.toBool]
      have sound : ¬ c.Fatal read (some text) := by simp [Fatal, counts, GivesUp, reading]
      have asked : c.filter read (some text) = read (c.effective read (some text)) := by
        simp [filter, counts, reading]
      rw [asked]
      exact .answered sound
    | error e =>
      have asked : c.filter read (some text) =
          if e.isFatal then .error e else read c.logLevel := by simp [filter, reading]
      rw [asked]
      split
      · next fatal => exact .gaveUp (Or.inl ⟨text, rfl, e, reading, fatal⟩) fatal
      · next answers =>
        have counts : c.effective read (some text) = c.logLevel := by
          simp [effective, reading, Except.isOk, Except.toBool]
        exact asks_of_configured counts (by simp [GivesUp, reading, answers])

theorem validate_of_error (named : c.Named) {e : DirectiveError}
    (fault : c.filter read ambient = .error e) :
    c.validate read ambient = .error (.filter e) := by
  rw [validate, named, fault]
  rfl

private theorem validate_of_ok (named : c.Named) {f : Filter}
    (sound : c.filter read ambient = .ok f) : c.validate read ambient = .ok () := by
  rw [validate, named, sound]
  rfl

end Config

end Reading

namespace Outlet

/-- Making records leaves the subscriber in place. -/
theorem subscriber_record (r : Record) (o : Outlet) : (o.record r).subscriber = o.subscriber := by
  unfold record
  split
  · rfl
  · split
    · rfl
    · split <;> rfl

/-! ## One attempt -/

section Attempt

variable (read : FilterReader) (c : Config) (ambient : Option String) (o : Outlet)

/-- What an attempt can come to. -/
inductive Attempts : Outlet → Except SetupError Guard → Prop
  | nameless (nameless : ¬ c.Named) : Attempts o (.error .blankServiceName)
  | fatal {e : DirectiveError} (named : c.Named) (fatal : c.Fatal read ambient)
      (gaveUp : e.isFatal = true) : Attempts o (.error (.filter e))
  | unreadable {e : DirectiveError} (named : c.Named) (sound : ¬ c.Fatal read ambient)
      (unread : read (c.effective read ambient) = .error e) : Attempts o (.error (.filter e))
  | late {f : Filter} (named : c.Named) (sound : ¬ c.Fatal read ambient)
      (reads : read (c.effective read ambient) = .ok f) (taken : o.subscriber ≠ none) :
      Attempts o (.error .subscribed)
  | first {f : Filter} (named : c.Named) (sound : ¬ c.Fatal read ambient)
      (reads : read (c.effective read ambient) = .ok f) (free : o.subscriber = none) :
      Attempts ({ o with subscriber := some (subscriberOf c f) }.record (openingRecord c)) (.ok ⟨c⟩)

/-- Every attempt ends in one of the ways told. -/
theorem attempts_setUp :
    Attempts read c ambient o (o.setUp read c ambient).1 (o.setUp read c ambient).2 := by
  cases blank : Text.blank c.serviceName with
  | true =>
    simp only [setUp, Config.validate, blank, ↓reduceIte]
    exact .nameless (by simp [Config.Named, blank])
  | false =>
    have asks := c.asks_filter read ambient
    generalize asked : c.filter read ambient = outcome at asks
    cases asks with
    | gaveUp fatal gaveUp =>
      simp only [setUp, Config.validate_of_error blank asked]
      exact .fatal blank fatal gaveUp
    | answered sound =>
      cases reads : read (c.effective read ambient) with
      | error e =>
        simp only [setUp, Config.validate_of_error blank (asked.trans reads)]
        exact .unreadable blank sound reads
      | ok f =>
        have found := asked.trans reads
        simp only [setUp, Config.validate_of_ok blank found, found]
        cases taken : o.subscriber with
        | some s => exact .late blank sound reads (by simp [taken])
        | none => exact .first blank sound reads taken

variable {read c ambient o} {o' : Outlet} {result : Except SetupError Guard}

theorem Attempts.isOk_iff (attempts : Attempts read c ambient o o' result) :
    (∃ g, result = .ok g) ↔ c.Named ∧ ¬ c.Fatal read ambient ∧
      Parses read (c.effective read ambient) ∧ o.subscriber = none := by
  cases attempts with
  | nameless nameless => simp [nameless]
  | fatal named fatal gaveUp => simp [fatal]
  | unreadable named sound unread => simp [Parses, unread]
  | late named sound reads taken => simp [taken]
  | first named sound reads free => simp [named, sound, Parses, reads, free]

theorem Attempts.isConfiguration_iff (attempts : Attempts read c ambient o o' result) :
    (∃ e, result = .error e ∧ e.isConfiguration = true) ↔
      ¬ c.Named ∨ ¬ c.Fatal read ambient ∧ ¬ Parses read (c.effective read ambient) := by
  cases attempts with
  | nameless nameless => simp [nameless, SetupError.isConfiguration]
  | fatal named fatal gaveUp => simp [named, fatal, gaveUp, SetupError.isConfiguration]
  | @unreadable e named sound unread =>
    have answered : e.isFatal = false :=
      Bool.eq_false_iff.2 fun gaveUp => sound (Or.inr ⟨e, unread, gaveUp⟩)
    simp [sound, Parses, unread, SetupError.isConfiguration, answered]
  | late named sound reads taken =>
    simp [named, Parses, reads, SetupError.isConfiguration]
  | first named sound reads free => simp [named, Parses, reads]

theorem Attempts.isSubscribed_iff (attempts : Attempts read c ambient o o' result) :
    result = .error .subscribed ↔ c.Named ∧ ¬ c.Fatal read ambient ∧
      Parses read (c.effective read ambient) ∧ o.subscriber ≠ none := by
  cases attempts with
  | nameless nameless => simp [nameless]
  | fatal named fatal gaveUp => simp [fatal]
  | unreadable named sound unread => simp [Parses, unread]
  | late named sound reads taken => simp [named, sound, Parses, reads, taken]
  | first named sound reads free => simp [free]

theorem Attempts.isFatal_iff (attempts : Attempts read c ambient o o' result) :
    (∃ e, result = .error e ∧ e.isFatal = true) ↔ c.Named ∧ c.Fatal read ambient := by
  cases attempts with
  | nameless nameless => simp [nameless, SetupError.isFatal]
  | fatal named fatal gaveUp => simp [named, fatal, gaveUp, SetupError.isFatal]
  | @unreadable e named sound unread =>
    have answered : e.isFatal = false :=
      Bool.eq_false_iff.2 fun gaveUp => sound (Or.inr ⟨e, unread, gaveUp⟩)
    simp [sound, SetupError.isFatal, answered]
  | late named sound reads taken => simp [sound, SetupError.isFatal]
  | first named sound reads free => simp [sound]

/-- Who receives the records of an outlet that is set stays, and no attempt succeeds. -/
theorem Attempts.of_taken (attempts : Attempts read c ambient o o' result) {sub : Subscriber}
    (taken : o.subscriber = some sub) : o'.subscriber = some sub ∧ ∀ g, result ≠ .ok g := by
  cases attempts with
  | nameless | fatal | unreadable | late => exact ⟨taken, nofun⟩
  | first named sound reads free => simp [taken] at free

/-- Only an attempt that succeeds sets an outlet. -/
theorem Attempts.of_free (attempts : Attempts read c ambient o o' result)
    (free : o.subscriber = none) : o'.subscriber = none ↔ ∀ g, result ≠ .ok g := by
  cases attempts with
  | nameless | fatal | unreadable | late => simp [free]
  | first => simp [subscriber_record]

/-- An attempt that succeeds leaves its guard, and the filter of the text that counts. -/
theorem Attempts.of_ok {g : Guard} (attempts : Attempts read c ambient o o' (.ok g)) :
    g.config = c ∧ o.subscriber = none ∧ ∃ f, read (c.effective read ambient) = .ok f ∧
      o'.subscriber = some (subscriberOf c f) := by
  cases attempts with
  | first named sound reads free => exact ⟨rfl, free, _, reads, subscriber_record _ _⟩

end Attempt

/-! ## Attempts among other steps -/

section Run

variable (read : FilterReader) {o : Outlet} {sub : Subscriber}

private theorem step_of_taken (taken : o.subscriber = some sub) (s : Step) :
    (o.step read s).1.subscriber = some sub ∧ ∀ g, (o.step read s).2 ≠ some (.ok g) := by
  cases s with
  | setUp c ambient =>
    obtain ⟨kept, failed⟩ := (attempts_setUp read c ambient o).of_taken taken
    exact ⟨kept, fun g success => failed g (Option.some.inj success)⟩
  | record r => exact ⟨(subscriber_record r o).trans taken, nofun⟩
  | giveUp g => exact ⟨(subscriber_record _ o).trans taken, nofun⟩

private theorem step_of_free (free : o.subscriber = none) (s : Step) :
    (o.step read s).1.subscriber = none ↔ ∀ g, (o.step read s).2 ≠ some (.ok g) := by
  cases s with
  | setUp c ambient =>
    refine ((attempts_setUp read c ambient o).of_free free).trans (forall_congr' fun g => ?_)
    exact not_congr (Option.some_inj.symm)
  | record r => simp [step, subscriber_record, free]
  | giveUp g => simp [step, giveUp, subscriber_record, free]

theorem run_append (o : Outlet) (before after : List Step) :
    o.run read (before ++ after) =
      (((o.run read before).1.run read after).1,
        (o.run read before).2 ++ ((o.run read before).1.run read after).2) := by
  induction before generalizing o with
  | nil => rfl
  | cons s rest ih => simp only [List.cons_append, run, ih, List.append_assoc]

private theorem run_setUp (o : Outlet) (before after : List Step) (c : Config)
    (ambient : Option String) :
    let attempt := (o.run read before).1.setUp read c ambient
    o.run read (before ++ .setUp c ambient :: after) = ((attempt.1.run read after).1,
      (o.run read before).2 ++ attempt.2 :: (attempt.1.run read after).2) :=
  run_append read o before (.setUp c ambient :: after)

theorem run_of_taken (taken : o.subscriber = some sub) (steps : List Step) :
    (o.run read steps).1.subscriber = some sub ∧ ∀ g, .ok g ∉ (o.run read steps).2 := by
  induction steps generalizing o with
  | nil => exact ⟨taken, nofun⟩
  | cons s rest ih =>
    obtain ⟨kept, failed⟩ := step_of_taken read taken s
    obtain ⟨keptLater, failedLater⟩ := ih kept
    refine ⟨keptLater, fun g member => ?_⟩
    rcases List.mem_append.1 member with now | later
    · exact failed g (Option.mem_toList.1 now)
    · exact failedLater g later

private theorem run_of_free (free : o.subscriber = none) (steps : List Step) :
    (o.run read steps).1.subscriber = none ↔ ∀ g, .ok g ∉ (o.run read steps).2 := by
  induction steps generalizing o with
  | nil => simp [run, free]
  | cons s rest ih =>
    simp only [run, List.mem_append, Option.mem_toList, not_or, forall_and]
    by_cases failed : ∀ g, (o.step read s).2 ≠ some (.ok g)
    · rw [ih ((step_of_free read free s).2 failed)]
      exact (and_iff_right failed).symm
    · obtain ⟨sub, taken⟩ := Option.ne_none_iff_exists'.1 (mt (step_of_free read free s).1 failed)
      simp [(run_of_taken read taken rest).1, failed]

end Run

/-- An attempt among any steps succeeds exactly when the service has a name, the text that counts is
a filter and no attempt before it succeeded; the outlet is then set for good. A fault of the
configuration is told whether or not the outlet is set, and only an attempt without fault is told
that it is. An attempt fails to return just where the reader of filters does. Giving up guards, and
attempts that failed, change none of this. -/
theorem attempt_decides (read : FilterReader) (before after : List Step) (c : Config)
    (ambient : Option String) :
    let whole := ({} : Outlet).run read (before ++ .setUp c ambient :: after)
    let earlier := (({} : Outlet).run read before).2
    let taken := ∃ g, .ok g ∈ earlier
    let text := c.effective read ambient
    ∃ result later, whole.2 = earlier ++ result :: later ∧
      ((∃ g, result = .ok g) ↔
        c.Named ∧ ¬ c.Fatal read ambient ∧ Parses read text ∧ ¬ taken) ∧
      ((∃ e, result = .error e ∧ e.isConfiguration = true) ↔
        ¬ c.Named ∨ ¬ c.Fatal read ambient ∧ ¬ Parses read text) ∧
      (result = .error .subscribed ↔
        c.Named ∧ ¬ c.Fatal read ambient ∧ Parses read text ∧ taken) ∧
      ((∃ e, result = .error e ∧ e.isFatal = true) ↔ c.Named ∧ c.Fatal read ambient) ∧
      ((∀ text, ¬ GivesUp read text) → ¬ c.Fatal read ambient) ∧
      ∀ g, result = .ok g → g.config = c ∧ (∀ other, .ok other ∉ earlier ++ later) ∧
        ∃ f, read text = .ok f ∧ whole.1.subscriber = some (subscriberOf c f) := by
  intro whole earlier taken text
  have split := run_setUp read {} before after c ambient
  have attempts := attempts_setUp read c ambient (({} : Outlet).run read before).1
  have free_iff : (({} : Outlet).run read before).1.subscriber = none ↔ ¬ taken := by
    rw [run_of_free read rfl, not_exists]
  generalize (({} : Outlet).run read before).1.setUp read c ambient = attempt at split attempts
  refine ⟨attempt.2, _, congrArg Prod.snd split, ?_, attempts.isConfiguration_iff, ?_,
    attempts.isFatal_iff, Config.not_fatal_of_total, fun g success => ?_⟩
  · rw [attempts.isOk_iff, free_iff]
  · rw [attempts.isSubscribed_iff, Ne, free_iff, Classical.not_not]
  · rw [success] at attempts
    obtain ⟨config, free, f, reads, set⟩ := attempts.of_ok
    obtain ⟨stays, failed⟩ := run_of_taken read set after
    refine ⟨config, fun other member => ?_, f, reads, ?_⟩
    · rcases List.mem_append.1 member with before | later
      · exact free_iff.1 free ⟨other, before⟩
      · exact failed other later
    · exact (congrArg (fun final => final.1.subscriber) split).trans stays

/-- The first attempt of all, with a name and a configured text that is a filter: the reader gives
up over the text of the environment, and the attempt with it. -/
theorem setUp_divided :
    let c : Config := { logLevel := "3" }
    let ambient := " \u00e9=info"
    c.Named ∧ ¬ Parses Filter.ofText ambient ∧ Parses Filter.ofText c.logLevel ∧
      (({} : Outlet).setUp Filter.ofText c (some ambient)).2 = .error (.filter .divided) := by
  intro c ambient
  have named : Text.blank c.serviceName = false := by decide +kernel
  have divided : Filter.ofText ambient = .error .divided := by decide +kernel
  have read : ((Filter.ofText c.logLevel).toOption.any fun _ => true) = true := by decide +kernel
  obtain ⟨f, parses, -⟩ := exists_ok_of_any read
  have unread : ¬ Parses Filter.ofText ambient := by
    rintro ⟨f, ok⟩
    rw [divided] at ok
    cases ok
  clear_value c ambient
  have asked : c.filter Filter.ofText (some ambient) = .error .divided := by
    rw [Config.filter, Option.map_some, divided]
    rfl
  refine ⟨named, unread, ⟨f, parses⟩, ?_⟩
  rw [setUp, Config.validate_of_error named asked]

end Outlet

end TokenGate.Telemetry
