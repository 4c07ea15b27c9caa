import Mathlib
import TokenGate.Proofs.Fetch.Document

/-! # Reading a body within the limit

The body of an answer arrives in chunks, cut anywhere. What reading comes to depends on the octets
that arrive and on how they end, not on the cuts: it is stopped exactly if there are more of them
than the limit, and the buffer never holds more than that. -/

namespace TokenGate.Fetch

def Answer.Succeeds (a : Answer) : Prop := 200 ≤ a.status ∧ a.status < 300

/-- The answer announces more octets than the limit. -/
def Answer.AnnouncesTooMuch (a : Answer) (f : Fetcher) : Prop :=
  ∃ length, a.announced = some length ∧ f.limit.toNat < length

section

variable (f : Fetcher) (ending : BodyEnd) {buffer : List UInt8}

/-- Chunks that arrive one after another are taken up as if they arrived at once. -/
theorem collect_eq (within : buffer.length ≤ f.limit.toNat) (chunks : List (List UInt8)) :
    collect f buffer chunks =
      if f.limit.toNat < (buffer ++ chunks.flatten).length then .error (.bodyTooLarge f.limit)
      else .ok (buffer ++ chunks.flatten) := by
  induction chunks generalizing buffer with
  | nil =>
    rw [List.flatten_nil, List.append_nil, if_neg (Nat.not_lt.2 within)]
    rfl
  | cons chunk rest ih =>
    rw [collect, List.foldlM_cons, takeUp, List.flatten_cons, ← List.append_assoc]
    by_cases beyond : f.limit.toNat < buffer.length + chunk.length
    · have all : f.limit.toNat < (buffer ++ chunk ++ rest.flatten).length := by
        simp only [List.length_append]
        omega
      rw [if_pos beyond, if_pos all]
      rfl
    · rw [if_neg beyond]
      exact ih (by simpa using beyond)

/-- The buffer holds what has arrived, and it holds nothing beyond the limit. -/
theorem collect_eq_ok_iff (within : buffer.length ≤ f.limit.toNat) (chunks : List (List UInt8))
    (held : List UInt8) :
    collect f buffer chunks = .ok held ↔
      held = buffer ++ chunks.flatten ∧ held.length ≤ f.limit.toNat := by
  rw [collect_eq f within]
  split
  · next beyond =>
    refine iff_of_false (by simp) ?_
    rintro ⟨rfl, few⟩
    exact absurd beyond (Nat.not_lt.2 few)
  · next fits =>
    constructor
    · intro same
      obtain rfl := Except.ok.inj same
      exact ⟨rfl, Nat.le_of_not_lt fits⟩
    · rintro ⟨rfl, -⟩
      rfl

/-- Wherever a body is cut, its rest is read into the buffer that its beginning has filled. -/
theorem readBody_append (front rest : List (List UInt8)) :
    readBody f ending buffer (front ++ rest) =
      (collect f buffer front).bind fun held => readBody f ending held rest := by
  rw [readBody, collect, List.foldlM_append]
  change ((collect f buffer front).bind fun held => collect f held rest).bind _ = _
  cases collect f buffer front <;> rfl

/-- A body that arrives in chunks is read as if it arrived at once. -/
theorem readBody_eq (within : buffer.length ≤ f.limit.toNat) (chunks : List (List UInt8)) :
    readBody f ending buffer chunks =
      if f.limit.toNat < (buffer ++ chunks.flatten).length then .error (.bodyTooLarge f.limit)
      else ending.close f (buffer ++ chunks.flatten) := by
  rw [readBody, collect_eq f within]
  split <;> rfl

end

section

variable {f : Fetcher} {a : Answer}

theorem Answer.not_succeeds_iff : ¬ a.Succeeds ↔ a.status < 200 ∨ 300 ≤ a.status := by
  unfold Answer.Succeeds
  omega

private theorem document_of_not_succeeds (failed : ¬ a.Succeeds) :
    document f a = .error (.httpStatus a.status.toUInt16) := by
  rw [document, if_pos (by simpa using Answer.not_succeeds_iff.1 failed)]

private theorem document_of_announcesTooMuch (succeeds : a.Succeeds)
    (beyond : a.AnnouncesTooMuch f) : document f a = .error (.bodyTooLarge f.limit) := by
  obtain ⟨length, announced, beyond⟩ := beyond
  have inside := fun outside => Answer.not_succeeds_iff.2 outside succeeds
  rw [document, if_neg (by simpa using inside), if_pos (by simpa [announced] using beyond)]

/-- The body of a success that announces no more than the limit is read. -/
theorem document_eq_readBody (succeeds : a.Succeeds) (announced : ¬ a.AnnouncesTooMuch f) :
    document f a = readBody f a.ending [] a.chunks := by
  have inside := fun outside => Answer.not_succeeds_iff.2 outside succeeds
  have few : ¬ (a.announced.any fun length => f.limit.toNat < length) = true := by
    intro any
    obtain ⟨length, said, beyond⟩ := (Option.any_eq_true _ _).1 any
    exact announced ⟨length, said, of_decide_eq_true beyond⟩
  rw [document, if_neg (by simpa using inside), if_neg few]

private theorem document_eq (succeeds : a.Succeeds) (announced : ¬ a.AnnouncesTooMuch f) :
    document f a =
      if f.limit.toNat < a.chunks.flatten.length then .error (.bodyTooLarge f.limit)
      else a.ending.close f a.chunks.flatten := by
  rw [document_eq_readBody succeeds announced]
  exact readBody_eq f a.ending (Nat.zero_le _) a.chunks

end

/-- What a fetch comes to when its last request is answered, whatever the answer announces and
however its body is cut and ends. Any status but a success decides without the body. Then the
octets announced or arrived are too many, or the body ends early, or its octets alone decide. -/
theorem fetch_within_limit {f : Fetcher} {network : Network} {a : Answer}
    (reached : (answer f network).2 = .ok a) (time : SystemTime) :
    let result := (run f network time).2.1
    let body := a.chunks.flatten
    (¬ a.Succeeds → result = .error (.httpStatus a.status.toUInt16) ∧
      ∀ chunks ending, document f { a with chunks := chunks, ending := ending } = document f a) ∧
    (a.Succeeds → a.AnnouncesTooMuch f ∨ f.limit.toNat < body.length →
      result = .error (.bodyTooLarge f.limit)) ∧
    (a.Succeeds → ¬ a.AnnouncesTooMuch f → body.length ≤ f.limit.toNat →
      (a.ending = .broken → result = .error .transport) ∧
      (a.ending = .stalled → result = .error (.timeout f.timeout)) ∧
      (a.ending = .complete → result = (KeySet.ofDocument body time).1)) ∧
    (a.Succeeds → a.ending = .complete →
      (∀ length, a.announced = some length → length ≤ max f.limit.toNat body.length) →
      result = if body.length ≤ f.limit.toNat then (KeySet.ofDocument body time).1
        else .error (.bodyTooLarge f.limit)) ∧
    (a.Succeeds → ¬ a.AnnouncesTooMuch f → ∀ count,
      document f a = (collect f [] (a.chunks.take count)).bind fun buffer =>
        readBody f a.ending buffer (a.chunks.drop count)) ∧
    ∀ count buffer, collect f [] (a.chunks.take count) = .ok buffer ↔
      buffer = (a.chunks.take count).flatten ∧ buffer.length ≤ f.limit.toNat := by
  intro result body
  have received : result = (document f a).bind fun body => (KeySet.ofDocument body time).1 := by
    show (run f network time).2.1 = _
    rw [run_eq_bind, reached, Except.bind]
  have tooMuch (succeeds : a.Succeeds)
      (beyond : a.AnnouncesTooMuch f ∨ f.limit.toNat < body.length) :
      result = .error (.bodyTooLarge f.limit) := by
    rw [received]
    by_cases announced : a.AnnouncesTooMuch f
    · rw [document_of_announcesTooMuch succeeds announced, Except.bind]
    · rw [document_eq succeeds announced, if_pos (beyond.resolve_left announced), Except.bind]
  have within (succeeds : a.Succeeds) (announced : ¬ a.AnnouncesTooMuch f)
      (fits : body.length ≤ f.limit.toNat) :
      result = (a.ending.close f body).bind fun body => (KeySet.ofDocument body time).1 := by
    rw [received, document_eq succeeds announced, if_neg (Nat.not_lt.2 fits)]
  refine ⟨fun failed => ⟨?_, fun chunks ending => ?_⟩, tooMuch, ?_, ?_, ?_, ?_⟩
  · rw [received, document_of_not_succeeds failed, Except.bind]
  · rw [document_of_not_succeeds failed]
    exact document_of_not_succeeds failed
  · intro succeeds announced fits
    rw [within succeeds announced fits]
    refine ⟨fun broken => ?_, fun stalled => ?_, fun complete => ?_⟩
    · rw [broken, BodyEnd.close, Except.bind]
    · rw [stalled, BodyEnd.close, Except.bind]
    · rw [complete, BodyEnd.close, Except.bind]
  · intro succeeds complete announced
    split
    · next fits =>
      have few : ¬ a.AnnouncesTooMuch f := by
        rintro ⟨length, said, beyond⟩
        have := announced length said
        omega
      rw [within succeeds few fits, complete, BodyEnd.close, Except.bind]
    · next large => exact tooMuch succeeds (Or.inr (Nat.lt_of_not_le large))
  · intro succeeds announced count
    rw [document_eq_readBody succeeds announced, ← readBody_append, List.take_append_drop]
  · exact fun count buffer => collect_eq_ok_iff f (Nat.zero_le _) (a.chunks.take count) buffer

/-- A document of eleven octets in three chunks, one of them empty. -/
def chunkedAnswer : Answer :=
  { status := 200, chunks := ["\x7b\"keys".toUTF8.toList, [], "\":[]\x7d".toUTF8.toList] }

/-- A fetcher that reads eleven octets at most. -/
def tightFetcher : Fetcher where
  endpoint :=
    ⟨"https", "", "", some (.domain "login.example.com"), none, .rooted ["jwks"], none, none⟩
  timeout := .ofSeconds 10
  limit := 11

/-- A body of exactly the limit is read to its end, chunk by chunk. -/
theorem fetch_within_limit_exact :
    let network : Network := fun _ _ => .answered chunkedAnswer
    (answer tightFetcher network).2 = .ok chunkedAnswer ∧ chunkedAnswer.Succeeds ∧
      chunkedAnswer.chunks.flatten = "\x7b\"keys\":[]\x7d".toUTF8.toList ∧
      chunkedAnswer.chunks.flatten.length = tightFetcher.limit.toNat ∧
      (run tightFetcher network 0).2.1 = .error (.noUsableKeys 0) ∧
      (List.range 4).map (fun count => (collect tightFetcher []
        (chunkedAnswer.chunks.take count)).toOption.map List.length) =
          [some 0, some 6, some 6, some 11] := by
  intro network
  have reached : (answer tightFetcher network).2 = .ok chunkedAnswer := rfl
  have succeeds : chunkedAnswer.Succeeds := ⟨by decide, by decide⟩
  have body : chunkedAnswer.chunks.flatten = "\x7b\"keys\":[]\x7d".toUTF8.toList := by
    decide +kernel
  have length : chunkedAnswer.chunks.flatten.length = tightFetcher.limit.toNat := by
    decide +kernel
  obtain ⟨-, -, -, whole, -, -⟩ := fetch_within_limit reached 0
  have read := whole succeeds rfl nofun
  rw [if_pos (Nat.le_of_eq length), body] at read
  have empty : (KeySet.ofDocument "\x7b\"keys\":[]\x7d".toUTF8.toList 0).1 =
      .error (.noUsableKeys 0) := by cbv
  refine ⟨reached, succeeds, body, length, read.trans empty, ?_⟩
  decide +kernel

end TokenGate.Fetch
