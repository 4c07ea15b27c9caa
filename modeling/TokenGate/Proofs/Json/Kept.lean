import Mathlib.Data.List.Induction
import Mathlib.Data.List.Nodup
import TokenGate.Json.Fields

/-! # What reading keeps

Keeping a tree gives each name of a record once, and no number that the tree does not have. The
numbers of a tree are those of the tokens that built it, which are what literals stand for, so an
integer of a document lies in its range wherever it is kept. -/

namespace TokenGate.Json

open TokenGate.Text (Symbol)

/-! ## Members -/

section

variable {α : Type} {members : List (String × α)} {name : String}

/-- A new name goes behind the others. -/
theorem put_of_not_mem (absent : name ∉ members.map Prod.fst) (value : α) :
    put members name value = members ++ [(name, value)] := by
  induction members with
  | nil => rfl
  | cons m rest ih =>
    obtain ⟨n, v⟩ := m
    rw [List.map_cons, List.mem_cons, not_or] at absent
    have other : (n == name) = false := beq_false_of_ne (Ne.symm absent.1)
    rw [put, other, ih absent.2]
    rfl

/-- A known name keeps its place. -/
theorem map_fst_put_of_mem (present : name ∈ members.map Prod.fst) (value : α) :
    (put members name value).map Prod.fst = members.map Prod.fst := by
  induction members with
  | nil => cases present
  | cons m rest ih =>
    obtain ⟨n, v⟩ := m
    by_cases same : n = name
    · simp [put, same]
    · have behind : name ∈ rest.map Prod.fst := by simpa [Ne.symm same] using present
      simp [put, same, ih behind]

/-- Setting a name keeps the names distinct. -/
theorem nodup_put (distinct : (members.map Prod.fst).Nodup) (value : α) :
    ((put members name value).map Prod.fst).Nodup := by
  by_cases present : name ∈ members.map Prod.fst
  · rw [map_fst_put_of_mem present]
    exact distinct
  · rw [put_of_not_mem present, List.map_append, List.map_singleton]
    exact List.nodup_append.2 ⟨distinct, List.nodup_singleton _, by
      rintro a inside b last rfl
      rw [List.mem_singleton.1 last] at inside
      exact present inside⟩

theorem mem_of_mem_put {value : α} {m : String × α} (member : m ∈ put members name value) :
    m = (name, value) ∨ m ∈ members := by
  induction members with
  | nil => exact Or.inl (List.mem_singleton.1 member)
  | cons first rest ih =>
    obtain ⟨n, v⟩ := first
    by_cases same : n = name
    · subst same
      rw [put, beq_self_eq_true, if_pos rfl, List.mem_cons] at member
      exact member.imp_right (List.mem_cons_of_mem _)
    · rw [put, beq_false_of_ne same, if_neg Bool.false_ne_true, List.mem_cons] at member
      rcases member with rfl | member
      · exact Or.inr (List.mem_cons_self ..)
      · exact (ih member).imp_right (List.mem_cons_of_mem _)

/-- A member more is set among the last values of those before it. -/
theorem lastValues_concat (members : List (String × α)) (m : String × α) :
    lastValues (members ++ [m]) = put (lastValues members) m.1 m.2 := by
  rw [lastValues, List.foldl_append, List.foldl_cons, List.foldl_nil, lastValues]

/-- Of repeated names one member is left. -/
theorem nodup_lastValues (members : List (String × α)) :
    ((lastValues members).map Prod.fst).Nodup := by
  induction members using List.reverseRecOn with
  | nil => exact List.nodup_nil
  | append_singleton members m ih =>
    rw [lastValues_concat]
    exact nodup_put ih m.2

/-- The last values are among the members. -/
theorem mem_of_mem_lastValues {m : String × α} (member : m ∈ lastValues members) :
    m ∈ members := by
  induction members using List.reverseRecOn with
  | nil => exact member
  | append_singleton members last ih =>
    rw [lastValues_concat] at member
    rcases mem_of_mem_put member with rfl | before
    · simp
    · exact List.mem_append_left _ (ih before)

/-- Members with distinct names stay as they are. -/
theorem lastValues_eq_self (distinct : (members.map Prod.fst).Nodup) :
    lastValues members = members := by
  induction members using List.reverseRecOn with
  | nil => rfl
  | append_singleton members m ih =>
    rw [List.map_append, List.nodup_append] at distinct
    obtain ⟨before, _, apart⟩ := distinct
    have absent : m.1 ∉ members.map Prod.fst := fun inside => apart m.1 inside m.1 (by simp) rfl
    rw [lastValues_concat, ih before, put_of_not_mem absent]

theorem lookup?_eq_none_iff : lookup? members name = none ↔ name ∉ members.map Prod.fst := by
  simp only [lookup?, Option.map_eq_none_iff, List.find?_eq_none, beq_iff_eq, List.mem_map,
    not_exists, not_and]

/-- The last member of a name gives its value. -/
theorem lookup?_lastValues_append (members last : List (String × α))
    (distinct : (last.map Prod.fst).Nodup) (name : String) :
    lookup? (lastValues (members ++ last)) name =
      (lookup? last name).or (lookup? (lastValues members) name) := by
  induction last using List.reverseRecOn with
  | nil => simp [lookup?]
  | append_singleton last m ih =>
    rw [List.map_append, List.nodup_append] at distinct
    obtain ⟨before, -, apart⟩ := distinct
    rw [← List.append_assoc, lastValues_concat, lookup?_put, ih before]
    have split : lookup? (last ++ [m]) name = (lookup? last name).or (lookup? [m] name) := by
      simp [lookup?, List.find?_append, Option.map_or]
    by_cases same : m.1 = name
    · have absent : lookup? last name = none :=
        lookup?_eq_none_iff.2 fun inside => apart name inside m.1 (by simp) same.symm
      rw [if_pos same, split, absent, lookup?_cons, if_pos same]
      rfl
    · rw [if_neg same, split, lookup?_cons, if_neg same]
      simp [lookup?]

end

/-! ## Numbers -/

/-- Every number inside a value satisfies a predicate. -/
inductive EachNumber (holds : Number → Prop) : Json → Prop where
  | null : EachNumber holds .null
  | bool (b : Bool) : EachNumber holds (.bool b)
  | number {n : Number} (here : holds n) : EachNumber holds (.number n)
  | text (s : String) : EachNumber holds (.text s)
  | list {items : List Json} (inside : ∀ j ∈ items, EachNumber holds j) :
      EachNumber holds (.list items)
  | record {members : List (String × Json)} (inside : ∀ m ∈ members, EachNumber holds m.2) :
      EachNumber holds (.record members)

/-- The same for the numbers with content inside a tree. -/
inductive Raw.EachNumber (holds : Number → Prop) : Raw → Prop where
  | null : EachNumber holds .null
  | bool (b : Bool) : EachNumber holds (.bool b)
  | number {content : Option Number} (here : ∀ n, content = some n → holds n) :
      EachNumber holds (.number content)
  | text (content : Option String) : EachNumber holds (.text content)
  | list {items : List Raw} (inside : ∀ r ∈ items, EachNumber holds r) :
      EachNumber holds (.list items)
  | record {members : List (Option String × Raw)} (inside : ∀ m ∈ members, EachNumber holds m.2) :
      EachNumber holds (.record members)

theorem eachNumber_number_iff {holds : Number → Prop} {n : Number} :
    EachNumber holds (.number n) ↔ holds n :=
  ⟨fun | .number here => here, .number⟩

theorem eachNumber_list_iff {holds : Number → Prop} {items : List Json} :
    EachNumber holds (.list items) ↔ ∀ j ∈ items, j.EachNumber holds :=
  ⟨fun | .list inside => inside, .list⟩

theorem eachNumber_record_iff {holds : Number → Prop} {members : List (String × Json)} :
    EachNumber holds (.record members) ↔ ∀ m ∈ members, m.2.EachNumber holds :=
  ⟨fun | .record inside => inside, .record⟩

/-- Two predicates that every number satisfies are satisfied together. -/
theorem EachNumber.and {holds holds' : Number → Prop} {j : Json} (left : j.EachNumber holds)
    (right : j.EachNumber holds') : j.EachNumber fun n => holds n ∧ holds' n := by
  induction left with
  | null => exact .null
  | bool b => exact .bool b
  | text s => exact .text s
  | number here =>
    cases right with
    | number here' => exact .number ⟨here, here'⟩
  | list _ ih =>
    cases right with
    | list inside' => exact .list fun j member => ih j member (inside' j member)
  | record _ ih =>
    cases right with
    | record inside' => exact .record fun m member => ih m member (inside' m member)

theorem EachNumber.imp {holds holds' : Number → Prop} {j : Json} (each : j.EachNumber holds)
    (implies : ∀ n, holds n → holds' n) : j.EachNumber holds' := by
  induction each with
  | null => exact .null
  | bool b => exact .bool b
  | text s => exact .text s
  | number here => exact .number (implies _ here)
  | list _ ih => exact .list ih
  | record _ ih => exact .record ih

theorem exists_of_mem_mapM {α β : Type} {f : α → Option β} {items : List α} {kept : List β}
    (read : items.mapM f = some kept) : ∀ b ∈ kept, ∃ a ∈ items, f a = some b := by
  induction items generalizing kept with
  | nil =>
    obtain rfl : [] = kept := Option.some.inj read
    nofun
  | cons a items ih =>
    simp only [List.mapM_cons, bind, Option.bind_eq_some_iff, pure] at read
    obtain ⟨b, first, rest, behind, same⟩ := read
    obtain rfl := Option.some.inj same
    refine List.forall_mem_cons.2 ⟨⟨a, List.mem_cons_self .., first⟩, fun b' member => ?_⟩
    obtain ⟨a', inside, found⟩ := ih behind b' member
    exact ⟨a', List.mem_cons_of_mem _ inside, found⟩

/-- The members of a kept record, before repeated names are dropped. -/
theorem exists_of_value?_record {limit : Nat} {members : List (Option String × Raw)} {j : Json}
    (read : (Raw.record members).value? (limit + 1) = some j) :
    ∃ kept, j = .record (lastValues kept) ∧
      ∀ m ∈ kept, ∃ r ∈ members, r.1 = some m.1 ∧ r.2.value? limit = some m.2 := by
  rw [Raw.value?, Option.map_eq_some_iff] at read
  obtain ⟨kept, found, rfl⟩ := read
  refine ⟨kept, rfl, fun m member => ?_⟩
  obtain ⟨r, inside, pair⟩ := exists_of_mem_mapM found m member
  simp only [bind, Option.bind_eq_some_iff, pure] at pair
  obtain ⟨name, named, v, value, same⟩ := pair
  obtain rfl := Option.some.inj same
  exact ⟨r, inside, named, value⟩

/-- The numbers of a kept value are those of its tree. -/
theorem Raw.EachNumber.value? {holds : Number → Prop} {limit : Nat} {r : Raw} {j : Json}
    (each : r.EachNumber holds) (read : r.value? limit = some j) : j.EachNumber holds := by
  induction each generalizing limit j with
  | null =>
    obtain rfl : Json.null = j := by simpa [Raw.value?] using read
    exact .null
  | bool b =>
    obtain rfl : Json.bool b = j := by simpa [Raw.value?] using read
    exact .bool b
  | number here =>
    rw [Raw.value?, Option.map_eq_some_iff] at read
    obtain ⟨n, content, rfl⟩ := read
    exact .number (here n content)
  | text content =>
    rw [Raw.value?, Option.map_eq_some_iff] at read
    obtain ⟨s, -, rfl⟩ := read
    exact .text s
  | list _ ih =>
    cases limit with
    | zero => simp [Raw.value?] at read
    | succ limit =>
      rw [Raw.value?, Option.map_eq_some_iff] at read
      obtain ⟨kept, found, rfl⟩ := read
      refine .list fun k member => ?_
      obtain ⟨r, inside, value⟩ := exists_of_mem_mapM found k member
      exact ih r inside value
  | record _ ih =>
    cases limit with
    | zero => simp [Raw.value?] at read
    | succ limit =>
      obtain ⟨kept, rfl, found⟩ := exists_of_value?_record read
      refine .record fun m member => ?_
      obtain ⟨r, inside, -, value⟩ := found m (mem_of_mem_lastValues member)
      exact ih r inside value

/-- The numbers of a member are those of its record. -/
theorem Raw.EachNumber.members? {holds : Number → Prop} {r : Raw} (each : r.EachNumber holds)
    {members : List (String × Raw)} (named : r.members? = some members) :
    ∀ m ∈ members, m.2.EachNumber holds := by
  cases each with
  | record inside =>
    intro m member
    obtain ⟨raw, listed, same⟩ := exists_of_mem_mapM named m member
    obtain ⟨name, -, rfl⟩ := Option.map_eq_some_iff.1 same
    exact inside raw listed
  | null | bool | number | text | list => cases named

/-! ## Where the numbers come from -/

section

variable {holds : Number → Prop}

/-- The number of a token, if it is one with content, satisfies a predicate. -/
def Token.EachNumber (holds : Number → Prop) (t : Token) : Prop :=
  ∀ n, t = .number (some n) → holds n

/-- The numbers inside an open container. -/
def Frame.EachNumber (holds : Number → Prop) : Frame → Prop
  | .list items => ∀ r ∈ items, r.EachNumber holds
  | .record members => ∀ m ∈ members, m.2.EachNumber holds
  | .member members _ => ∀ m ∈ members, m.2.EachNumber holds

/-- The numbers of what has been built: the open containers and, at the end, the tree. -/
structure Built (holds : Number → Prop) (phase : Phase) (outer : List Frame) : Prop where
  result : ∀ r, phase = .done r → r.EachNumber holds
  frames : ∀ f ∈ outer, f.EachNumber holds

/-- A value that ends inside the open containers brings no number but its own. -/
theorem Built.place {v : Raw} {outer : List Frame} {next : Phase × List Frame}
    (value : v.EachNumber holds) (frames : ∀ f ∈ outer, f.EachNumber holds)
    (placed : place? v outer = some next) : Built holds next.1 next.2 := by
  cases outer with
  | nil =>
    obtain rfl := Option.some.inj placed
    exact ⟨fun r done => by cases done; exact value, nofun⟩
  | cons f outer =>
    obtain ⟨here, rest⟩ := List.forall_mem_cons.1 frames
    cases f with
    | list items =>
      obtain rfl := Option.some.inj placed
      exact ⟨nofun, List.forall_mem_cons.2 ⟨List.forall_mem_cons.2 ⟨value, here⟩, rest⟩⟩
    | record members => cases placed
    | member members name =>
      obtain rfl := Option.some.inj placed
      exact ⟨nofun, List.forall_mem_cons.2 ⟨List.forall_mem_cons.2 ⟨value, here⟩, rest⟩⟩

/-- A token where a value is due brings no number but its own. -/
theorem Built.beginValue {outer : List Frame} {t : Token} {next : Phase × List Frame}
    (token : t.EachNumber holds) (frames : ∀ f ∈ outer, f.EachNumber holds)
    (begun : beginValue? outer t = some next) : Built holds next.1 next.2 := by
  cases t with
  | null => exact .place .null frames begun
  | bool b => exact .place (.bool b) frames begun
  | text content => exact .place (.text content) frames begun
  | number content =>
    exact .place (.number fun n same => token n (same ▸ rfl)) frames begun
  | beginList =>
    obtain rfl := Option.some.inj begun
    exact ⟨nofun, List.forall_mem_cons.2 ⟨nofun, frames⟩⟩
  | beginRecord =>
    obtain rfl := Option.some.inj begun
    exact ⟨nofun, List.forall_mem_cons.2 ⟨nofun, frames⟩⟩
  | endList | endRecord | comma | colon => cases begun

/-- A token keeps the invariant, whether it begins a value, ends a container, names a member or only
separates. -/
theorem Built.next {phase : Phase} {outer : List Frame} {t : Token} {next : Phase × List Frame}
    (built : Built holds phase outer) (token : t.EachNumber holds)
    (advanced : advance? phase outer t = some next) : Built holds next.1 next.2 := by
  obtain ⟨-, frames⟩ := built
  unfold advance? at advanced
  split at advanced
  case h_1 | h_3 => exact .beginValue token frames advanced
  case h_2 | h_9 =>
    obtain ⟨here, rest⟩ := List.forall_mem_cons.1 frames
    exact .place (.list fun r member => here r (List.mem_reverse.1 member)) rest advanced
  case h_4 | h_11 =>
    obtain ⟨here, rest⟩ := List.forall_mem_cons.1 frames
    exact .place (.record fun m member => here m (List.mem_reverse.1 member)) rest advanced
  case h_5 | h_6 =>
    obtain ⟨here, rest⟩ := List.forall_mem_cons.1 frames
    obtain rfl := Option.some.inj advanced
    exact ⟨nofun, List.forall_mem_cons.2 ⟨here, rest⟩⟩
  case h_7 | h_8 | h_10 =>
    obtain rfl := Option.some.inj advanced
    exact ⟨nofun, frames⟩
  case h_12 => cases advanced

/-- Tokens build a tree of their own numbers. -/
theorem eachNumber_of_run? {phase : Phase} {outer : List Frame} {ts : List Token} {r : Raw}
    (tokens : ∀ t ∈ ts, t.EachNumber holds) (built : Built holds phase outer)
    (ran : run? phase outer ts = some r) : r.EachNumber holds := by
  induction ts generalizing phase outer with
  | nil =>
    cases phase with
    | done result =>
      obtain rfl := Option.some.inj ran
      exact built.result _ rfl
    | value | firstItem | firstName | name | colon | after => cases ran
  | cons t ts ih =>
    obtain ⟨token, behind⟩ := List.forall_mem_cons.1 tokens
    rw [run?] at ran
    split at ran
    · next phase' outer' advanced => exact ih behind (built.next token advanced) ran
    · cases ran

theorem eachNumber_of_begin? {c : Char} {found : List Token × Mode}
    (begun : begin? c = some found) : ∀ t ∈ found.1, t.EachNumber holds := by
  have other : ∀ content, punctuation? c ≠ some (.number content) := by
    intro content
    unfold punctuation?
    split_ifs <;> nofun
  unfold begin? at begun
  cases mark : punctuation? c with
  | some t =>
    simp only [mark] at begun
    split_ifs at begun
    · cases begun
      nofun
    · cases begun
      nofun
    · cases begun
      exact List.forall_mem_singleton.2 fun n same => absurd (same ▸ mark) (other (some n))
  | none =>
    simp only [mark] at begun
    split_ifs at begun <;> cases begun <;> nofun

section

variable (literals : ∀ (l : Literal) n, l.number? = some n → holds n)

include literals

theorem eachNumber_of_word? {cs : List Char} {t : Token} (word : word? cs = some t) :
    t.EachNumber holds := by
  rintro n rfl
  unfold word? at word
  split_ifs at word
  · cases word
  · cases word
  · cases word
  · obtain ⟨l, -, same⟩ := Option.map_eq_some_iff.1 word
    exact literals l n (Token.number.inj same)

/-- Of what a symbol completes, only the end of a word can be a number. -/
theorem eachNumber_of_step? {mode : Mode} {s : Symbol} {found : List Token × Mode}
    (stepped : step? mode s = some found) : ∀ t ∈ found.1, t.EachNumber holds := by
  unfold step? at stepped
  split at stepped
  case h_1 => exact eachNumber_of_begin? stepped
  case h_2 =>
    split_ifs at stepped
    · cases stepped
      nofun
    · simp only [bind, Option.bind_eq_some_iff, pure] at stepped
      obtain ⟨t, word, next, begun, same⟩ := stepped
      cases same
      exact List.forall_mem_cons.2 ⟨eachNumber_of_word? literals word, eachNumber_of_begin? begun⟩
  case h_3 =>
    split_ifs at stepped
    · cases stepped
      exact List.forall_mem_singleton.2 nofun
    · cases stepped
      nofun
    · cases stepped
      nofun
  case h_4 =>
    cases stepped
    nofun
  case h_5 =>
    split_ifs at stepped
    · cases stepped
      nofun
    · obtain ⟨e, -, rfl⟩ := Option.map_eq_some_iff.1 stepped
      nofun
  case h_6 =>
    simp only [bind, Option.bind_eq_some_iff, pure] at stepped
    obtain ⟨d, -, same⟩ := stepped
    split_ifs at same
    · cases same
      nofun
    · cases same
      nofun
  case h_7 => cases stepped

theorem eachNumber_of_finish? {mode : Mode} {ts : List Token} (finished : finish? mode = some ts) :
    ∀ t ∈ ts, t.EachNumber holds := by
  cases mode with
  | between =>
    cases finished
    nofun
  | word chars =>
    obtain ⟨t, word, rfl⟩ := Option.map_eq_some_iff.1 finished
    exact List.forall_mem_singleton.2 (eachNumber_of_word? literals word)
  | text pieces | escape pieces | hex pieces count value => cases finished

/-- A predicate of every number that a literal stands for holds of all tokens of a document. -/
theorem eachNumber_of_tokensFrom? {mode : Mode} {found ts : List Token} {document : List Symbol}
    (before : ∀ t ∈ found, t.EachNumber holds) (cut : tokensFrom? mode found document = some ts) :
    ∀ t ∈ ts, t.EachNumber holds := by
  induction document generalizing mode found with
  | nil =>
    obtain ⟨last, finished, rfl⟩ := Option.map_eq_some_iff.1 cut
    refine List.forall_mem_append.2 ⟨fun t member => before t (List.mem_reverse.1 member), ?_⟩
    exact eachNumber_of_finish? literals finished
  | cons s document ih =>
    rw [tokensFrom?] at cut
    split at cut
    · next ts' mode' stepped =>
      refine ih (List.forall_mem_append.2 ⟨fun t member => ?_, before⟩) cut
      exact eachNumber_of_step? literals stepped t (List.mem_reverse.1 member)
    · cases cut

/-- What holds of the numbers that literals stand for holds of all numbers of a document. -/
theorem eachNumber_of_raw? {document : List Symbol} {r : Raw} (read : raw? document = some r) :
    r.EachNumber holds := by
  obtain ⟨ts, cut, ran⟩ := Option.bind_eq_some_iff.1 read
  have tokens := eachNumber_of_tokensFrom? literals (List.forall_mem_nil _) cut
  have fresh : Built holds .value [] := ⟨nofun, List.forall_mem_nil _⟩
  exact eachNumber_of_run? tokens fresh ran

end

end

/-- An integer lies in its range. -/
def Number.InRange : Number → Prop
  | .natural _ => True
  | .negative n => 0 < n.toNat ∧ n.toNat ≤ Nat.pow 2 63
  | .real _ _ => True

/-- A literal stands for numbers of the 64-bit ranges only. -/
theorem Literal.inRange_of_number? {l : Literal} {n : Number} (stands : l.number? = some n) :
    n.InRange := by
  obtain ⟨isNegative, whole, fraction, exponent⟩ := l
  unfold Literal.number? at stands
  dsimp only at stands
  split at stands
  · split_ifs at stands
    · cases stands
      trivial
    · next small =>
      cases stands
      rw [Bool.and_eq_true, decide_eq_true_iff, decide_eq_true_iff] at small
      have room : (takeDigits 0 whole).1 < UInt64.size := Nat.lt_of_le_of_lt small.2 (by decide)
      rw [Number.InRange, Nat.toUInt64, UInt64.toNat_ofNat_of_lt' room]
      exact small
    · obtain ⟨x, -, rfl⟩ := Option.map_eq_some_iff.1 stands
      trivial
    · obtain ⟨x, -, rfl⟩ := Option.map_eq_some_iff.1 stands
      trivial
  · obtain ⟨x, -, rfl⟩ := Option.map_eq_some_iff.1 stands
    trivial
  · obtain ⟨x, -, rfl⟩ := Option.map_eq_some_iff.1 stands
    trivial

/-- All integers of a tree are of the 64-bit ranges. -/
theorem eachNumber_inRange {document : List Symbol} {r : Raw} (read : raw? document = some r) :
    r.EachNumber Number.InRange :=
  eachNumber_of_raw? (fun _ _ stands => Literal.inRange_of_number? stands) read

end TokenGate.Json
