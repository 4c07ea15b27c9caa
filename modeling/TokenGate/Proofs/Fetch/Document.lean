import TokenGate.Fetch.Exchange

/-! # What a fetch comes to

A fetch yields what reading the document yields that it brings. If it brings none it fails, and
never as a document without usable keys does. -/

namespace TokenGate.Fetch

/-- The last answer of a fetch is a document, which arrives as a whole. -/
def Brings (f : Fetcher) (network : Network) (body : List UInt8) : Prop :=
  ∃ a, (answer f network).2 = .ok a ∧ document f a = .ok body

/-- A buffer that does not take up all chunks was asked to hold more than the limit. -/
theorem eq_bodyTooLarge_of_collect {f : Fetcher} {buffer : List UInt8} {chunks : List (List UInt8)}
    {e : FetchError} (failed : collect f buffer chunks = .error e) : e = .bodyTooLarge f.limit := by
  induction chunks generalizing buffer with
  | nil => cases failed
  | cons chunk rest ih =>
    rw [collect, List.foldlM_cons, takeUp] at failed
    split at failed
    · exact (Except.error.inj failed).symm
    · exact ih failed

private theorem readBody_ne_noUsableKeys (f : Fetcher) (ending : BodyEnd) (buffer : List UInt8)
    (chunks : List (List UInt8)) (n : UInt64) :
    readBody f ending buffer chunks ≠ .error (.noUsableKeys n) := by
  rw [readBody]
  cases collected : collect f buffer chunks with
  | error e => simp [Except.bind, eq_bodyTooLarge_of_collect collected]
  | ok read => cases ending <;> simp [Except.bind, BodyEnd.close]

private theorem document_ne_noUsableKeys (f : Fetcher) (a : Answer) (n : UInt64) :
    document f a ≠ .error (.noUsableKeys n) := by
  unfold document
  split
  · simp
  split
  · simp
  · exact readBody_ne_noUsableKeys f a.ending [] a.chunks n

private theorem follow_ne_noUsableKeys (f : Fetcher) (network : Network) (redirects count : Nat)
    (url : Url) (n : UInt64) :
    (follow f network redirects count url).2 ≠ .error (.noUsableKeys n) := by
  induction redirects generalizing count url with
  | zero =>
    unfold follow
    split
    · simp
    · split <;> try simp
      split <;> simp
  | succ redirects ih =>
    unfold follow
    split
    · simp
    · split <;> try simp
      split
      · simp
      · exact ih _ _

private theorem receive_fst (f : Fetcher) (a : Answer) (time : SystemTime) :
    (receive f a time).1 =
      (document f a).bind fun body => (KeySet.ofDocument body time).1 := by
  unfold receive
  cases document f a with
  | error reason => rfl
  | ok body =>
    simp only [Except.bind]
    rcases KeySet.ofDocument body time with ⟨reason | set, log⟩
    · rfl
    · rfl

/-- A fetch yields what is made of its last answer: the document in it, and the set of that. -/
theorem run_eq_bind (f : Fetcher) (network : Network) (time : SystemTime) :
    (run f network time).2.1 =
      (answer f network).2.bind fun a =>
        (document f a).bind fun body => (KeySet.ofDocument body time).1 := by
  unfold run
  rcases answer f network with ⟨urls, reason | a⟩
  · rfl
  · exact receive_fst f a time

variable {f : Fetcher} {network : Network}

/-- A fetch brings one document at most. -/
theorem Brings.unique {body body' : List UInt8} (left : Brings f network body)
    (right : Brings f network body') : body = body' := by
  obtain ⟨a, answered, read⟩ := left
  obtain ⟨a', answered', read'⟩ := right
  obtain rfl := Except.ok.inj (answered.symm.trans answered')
  exact Except.ok.inj (read.symm.trans read')

/-- A fetch that brings a document yields what the document makes. -/
theorem run_of_brings {body : List UInt8} (brings : Brings f network body) (time : SystemTime) :
    (run f network time).2.1 = (KeySet.ofDocument body time).1 := by
  obtain ⟨a, answered, read⟩ := brings
  rw [run_eq_bind, answered, Except.bind, read, Except.bind]

/-- Without a document a fetch fails for another reason than what is in it. -/
theorem run_of_not_brings (without : ∀ body, ¬ Brings f network body) (time : SystemTime) :
    ∃ reason, (run f network time).2.1 = .error reason ∧ ∀ n, reason ≠ .noUsableKeys n := by
  rw [run_eq_bind]
  cases answered : (answer f network).2 with
  | error reason =>
    refine ⟨reason, rfl, ?_⟩
    rintro n rfl
    exact follow_ne_noUsableKeys f network maxRedirects 0 f.endpoint n answered
  | ok a =>
    cases read : document f a with
    | error reason =>
      refine ⟨reason, by simp [Except.bind, read], ?_⟩
      rintro n rfl
      exact document_ne_noUsableKeys f a n read
    | ok body => exact absurd ⟨a, answered, read⟩ (without body)

end TokenGate.Fetch
