import TokenGate.Proofs.Result
import TokenGate.Text.Base64

/-! # Base64 is read strictly

Octets have one spelling in a dialect: the symbols of their digits of six bits, the last of them
filled up with zero bits, and padding to groups of four where the dialect pads. A text is read
exactly when it is the spelling of octets, and as those. -/

namespace TokenGate.Base64

/-- The digits of octets, the last one filled up with zero bits. -/
def digits : List UInt8 → List Nat
  | a :: b :: c :: rest =>
    a.toNat / 4 :: (a.toNat % 4 * 16 + b.toNat / 16) :: (b.toNat % 16 * 4 + c.toNat / 64)
      :: c.toNat % 64 :: digits rest
  | [a, b] => [a.toNat / 4, a.toNat % 4 * 16 + b.toNat / 16, b.toNat % 16 * 4]
  | [a] => [a.toNat / 4, a.toNat % 4 * 16]
  | [] => []

/-- The symbol of a digit. -/
def Dialect.symbol (d : Dialect) (n : Nat) : UInt8 :=
  if n < 26 then (n + 0x41).toUInt8
  else if n < 52 then (n - 26 + 0x61).toUInt8
  else if n < 62 then (n - 52 + 0x30).toUInt8
  else if n = 62 then d.sixtyTwo
  else d.sixtyThree

/-- The padding behind so many symbols. -/
def Dialect.padding (d : Dialect) (symbols : Nat) : List UInt8 :=
  if d.padded then List.replicate ((4 - symbols % 4) % 4) pad else []

/-- The spelling of octets. -/
def Dialect.spell (d : Dialect) (octets : List UInt8) : List UInt8 :=
  (digits octets).map d.symbol ++ d.padding (digits octets).length

/-- The symbols of a dialect are told apart, from each other and from padding. -/
structure Dialect.Lawful (d : Dialect) : Prop where
  digit?_eq_some_iff : ∀ octet n, d.digit? octet = some n ↔ n < 64 ∧ d.symbol n = octet
  digit?_pad : d.digit? pad = none

private theorem forall_octet {p : UInt8 → Prop} (all : ∀ n < 256, p n.toUInt8) (octet : UInt8) :
    p octet := by
  simpa using all octet.toNat octet.toNat_lt

/-- The laws of a dialect follow from a check of each digit and each octet. -/
theorem Dialect.Lawful.of_checked {d : Dialect} (read : ∀ n < 64, d.digit? (d.symbol n) = some n)
    (spelled : ∀ o < 256, ∀ n ∈ d.digit? o.toUInt8, n < 64 ∧ d.symbol n = o.toUInt8)
    (digit?_pad : d.digit? pad = none) : d.Lawful where
  digit?_eq_some_iff octet n := by
    constructor
    · exact forall_octet (p := fun octet => d.digit? octet = some n → n < 64 ∧ d.symbol n = octet)
        (fun o small found => spelled o small n found) octet
    · rintro ⟨small, rfl⟩
      exact read n small
  digit?_pad := digit?_pad

private theorem lawful_urlSafe : urlSafe.Lawful :=
  .of_checked (by decide) (by decide +kernel) (by decide)

private theorem lawful_standard : standard.Lawful :=
  .of_checked (by decide) (by decide +kernel) (by decide)

/-! ## Digits -/

theorem digits_append {front : List UInt8} (full : front.length % 3 = 0) (back : List UInt8) :
    digits (front ++ back) = digits front ++ digits back := by
  fun_induction digits front with
  | case1 a b c rest ih =>
    have full : rest.length % 3 = 0 := by
      simp only [List.length_cons] at full
      omega
    simp only [List.cons_append, digits, ih full]
  | case2 a b => simp at full
  | case3 a => simp at full
  | case4 => rfl

theorem length_digits (octets : List UInt8) :
    (digits octets).length = (octets.length * 4 + 2) / 3 := by
  fun_induction digits octets with
  | case1 a b c rest ih =>
    simp only [List.length_cons, ih]
    omega
  | case2 a b => simp
  | case3 a => simp
  | case4 => simp

private theorem digits_lt (octets : List UInt8) : ∀ n ∈ digits octets, n < 64 := by
  fun_induction digits octets with
  | case1 a b c rest ih =>
    have := a.toNat_lt
    have := b.toNat_lt
    have := c.toNat_lt
    simp only [List.forall_mem_cons]
    exact ⟨by omega, by omega, by omega, by omega, ih⟩
  | case2 a b =>
    have := a.toNat_lt
    have := b.toNat_lt
    simp only [List.forall_mem_cons]
    exact ⟨by omega, by omega, by omega, by simp⟩
  | case3 a =>
    have := a.toNat_lt
    simp only [List.forall_mem_cons]
    exact ⟨by omega, by omega, by simp⟩
  | case4 => simp

theorem toNat_toUInt8 {n : Nat} (small : n < 256) : n.toUInt8.toNat = n := by
  simpa using small

/-- Four digits are those of the octets that they make. -/
theorem digits_threeOctets {a b c e : Nat} (ha : a < 64) (hb : b < 64) (hc : c < 64) (he : e < 64)
    (rest : List UInt8) :
    digits (threeOctets a b c e ++ rest) = a :: b :: c :: e :: digits rest := by
  simp only [threeOctets, List.cons_append, List.nil_append, digits]
  rw [toNat_toUInt8 (by omega), toNat_toUInt8 (by omega), toNat_toUInt8 (by omega)]
  simp only [List.cons.injEq, and_true]
  omega

/-- Three octets are made of their digits. -/
theorem threeOctets_digits (a b c : UInt8) :
    threeOctets (a.toNat / 4) (a.toNat % 4 * 16 + b.toNat / 16) (b.toNat % 16 * 4 + c.toNat / 64)
      (c.toNat % 64) = [a, b, c] := by
  have := a.toNat_lt
  have := b.toNat_lt
  have := c.toNat_lt
  simp only [threeOctets, List.cons.injEq, ← UInt8.toNat_inj, and_true]
  rw [toNat_toUInt8 (by omega), toNat_toUInt8 (by omega), toNat_toUInt8 (by omega)]
  omega

/-! ## Groups of four -/

namespace Dialect

variable {d : Dialect}

theorem digit_eq_ok_iff (lawful : d.Lawful) {offset n : Nat} {octet : UInt8} :
    d.digit offset octet = .ok n ↔ n < 64 ∧ d.symbol n = octet := by
  rw [← lawful.digit?_eq_some_iff]
  unfold digit
  cases d.digit? octet <;> simp

private theorem symbol_ne_pad (lawful : d.Lawful) {n : Nat} (small : n < 64) :
    d.symbol n ≠ pad := by
  intro same
  have found := (lawful.digit?_eq_some_iff pad n).2 ⟨small, same⟩
  rw [lawful.digit?_pad] at found
  cases found

private theorem spelled_of_groups (lawful : d.Lawful) {offset : Nat} {text octets : List UInt8}
    (full : text.length % 4 = 0) (read : d.groups offset text = .ok octets) :
    octets.length % 3 = 0 ∧ text = (digits octets).map d.symbol := by
  fun_induction groups d offset text generalizing octets with
  | case1 offset a b c e rest ih =>
    obtain ⟨a', ha, read⟩ := bind_eq_ok_iff.1 read
    obtain ⟨b', hb, read⟩ := bind_eq_ok_iff.1 read
    obtain ⟨c', hc, read⟩ := bind_eq_ok_iff.1 read
    obtain ⟨e', he, read⟩ := bind_eq_ok_iff.1 read
    obtain ⟨back, behind, read⟩ := bind_eq_ok_iff.1 read
    obtain rfl := Except.ok.inj read
    rw [digit_eq_ok_iff lawful] at ha hb hc he
    obtain ⟨ha, rfl⟩ := ha
    obtain ⟨hb, rfl⟩ := hb
    obtain ⟨hc, rfl⟩ := hc
    obtain ⟨he, rfl⟩ := he
    have full : rest.length % 4 = 0 := by
      simp only [List.length_cons] at full
      omega
    obtain ⟨whole, rfl⟩ := ih full behind
    refine ⟨?_, ?_⟩
    · simp only [threeOctets, List.length_append, List.length_cons, List.length_nil]
      omega
    · rw [digits_threeOctets ha hb hc he]
      rfl
  | case2 text offset short =>
    obtain rfl := Except.ok.inj read
    refine ⟨rfl, ?_⟩
    rcases text with _ | ⟨a, _ | ⟨b, _ | ⟨c, _ | ⟨e, rest⟩⟩⟩⟩
    · rfl
    · simp at full
    · simp at full
    · simp at full
    · exact absurd rfl (short a b c e rest)

private theorem groups_spelled (lawful : d.Lawful) {octets : List UInt8}
    (full : octets.length % 3 = 0) (offset : Nat) :
    d.groups offset ((digits octets).map d.symbol) = .ok octets := by
  have place (offset n : Nat) (small : n < 64) : d.digit offset (d.symbol n) = .ok n :=
    (digit_eq_ok_iff lawful).2 ⟨small, rfl⟩
  fun_induction digits octets generalizing offset with
  | case1 a b c rest ih =>
    have := a.toNat_lt
    have := b.toNat_lt
    have := c.toNat_lt
    have full : rest.length % 3 = 0 := by
      simp only [List.length_cons] at full
      omega
    simp only [List.map_cons, groups]
    rw [place _ _ (by omega), place _ _ (by omega), place _ _ (by omega), place _ _ (by omega),
      ih full]
    simp only [bind, Except.bind, pure, Except.pure, threeOctets_digits]
    rfl
  | case2 a b => simp at full
  | case3 a => simp at full
  | case4 => rfl

/-! ## The last group -/

/-- What is known of a last group after some symbols of it. -/
structure Shows (d : Dialect) (last : LastGroup) (symbols : List UInt8) : Prop where
  spelled : symbols = last.digits.map d.symbol ++ List.replicate last.padding pad
  small : ∀ n ∈ last.digits, n < 64

private theorem shows_of_lastGroup (lawful : d.Lawful) {start : Nat} {seen last : LastGroup}
    {before group : List UInt8} (known : d.Shows seen before)
    (read : d.lastGroup start before.length seen group = .ok last) :
    d.Shows last (before ++ group) := by
  induction group generalizing before seen with
  | nil =>
    obtain rfl := Except.ok.inj read
    rwa [List.append_nil]
  | cons octet rest ih =>
    rw [List.append_cons]
    rw [lastGroup] at read
    split at read
    · next padded =>
      obtain rfl : octet = pad := by simpa using padded
      split at read
      · cases read
      have known : d.Shows { seen with padding := seen.padding + 1 } (before ++ [pad]) :=
        ⟨by rw [known.spelled, List.append_assoc, List.replicate_succ'], known.small⟩
      exact ih known (by rwa [List.length_append])
    · split at read
      · cases read
      next unpadded =>
      have none_yet : seen.padding = 0 := by omega
      obtain ⟨n, found, read⟩ := bind_eq_ok_iff.1 read
      obtain ⟨small, rfl⟩ := (digit_eq_ok_iff lawful).1 found
      refine ih ⟨?_, ?_⟩ (by rwa [List.length_append])
      · rw [known.spelled, none_yet]
        simp
      · simpa [or_imp, forall_and] using ⟨known.small, small⟩

private theorem lastGroup_symbols (lawful : d.Lawful) {group : List Nat}
    (small : ∀ n ∈ group, n < 64) (start place : Nat) (seen : LastGroup)
    (unpadded : seen.padding = 0) (behind : List UInt8) :
    ∃ last, d.lastGroup start place seen (group.map d.symbol ++ behind) =
      d.lastGroup start (place + group.length) ⟨seen.digits ++ group, last, 0⟩ behind := by
  induction group generalizing place seen with
  | nil =>
    refine ⟨seen.last, ?_⟩
    rw [List.append_nil, ← unpadded]
    rfl
  | cons n rest ih =>
    simp only [List.forall_mem_cons] at small
    obtain ⟨last, rest_read⟩ := ih small.2 (place + 1)
      { seen with digits := seen.digits ++ [n], last := d.symbol n } unpadded
    refine ⟨last, ?_⟩
    have read : d.digit (start + place) (d.symbol n) = .ok n :=
      (digit_eq_ok_iff lawful).2 ⟨small.1, rfl⟩
    rw [List.map_cons, List.cons_append, lastGroup,
      if_neg (by simpa using symbol_ne_pad lawful small.1), if_neg (by omega), read]
    simp only [bind, Except.bind]
    rw [rest_read, List.append_assoc, List.singleton_append, List.length_cons]
    congr 1
    omega

private theorem lastGroup_pads {place : Nat} (late : 2 ≤ place) (start count : Nat)
    (seen : LastGroup) :
    d.lastGroup start place seen (List.replicate count pad) =
      .ok { seen with padding := seen.padding + count } := by
  induction count generalizing place seen with
  | zero => rfl
  | succ count ih =>
    rw [List.replicate_succ, lastGroup, if_pos (by simp), if_neg (by omega), ih (by omega)]
    simp only [Nat.add_assoc, Nat.add_comm 1]

private theorem spelled_of_finish {start : Nat} {last : LastGroup} {octets : List UInt8}
    (small : ∀ n ∈ last.digits, n < 64) (several : 2 ≤ last.digits.length)
    (few : last.digits.length + last.padding ≤ 4) (read : d.finish start last = .ok octets) :
    digits octets = last.digits ∧
      List.replicate last.padding pad = d.padding last.digits.length := by
  obtain ⟨group, symbol, count⟩ := last
  dsimp only at small several few ⊢
  unfold finish at read
  dsimp only at read
  split at read
  · cases read
  next whole =>
  split at read
  · cases read
  next allowed =>
  refine ⟨?_, ?_⟩
  · rcases group with _ | ⟨a, _ | ⟨b, _ | ⟨c, _ | ⟨e, _ | ⟨_, _⟩⟩⟩⟩⟩
    · simp at several
    · simp at several
    · simp only [List.forall_mem_cons] at small
      dsimp only at read
      split at read
      · next clear =>
        obtain rfl := Except.ok.inj read
        have clear : b % 16 = 0 := by simpa using clear
        simp only [digits]
        rw [toNat_toUInt8 (by omega)]
        simp only [List.cons.injEq, and_true]
        omega
      · cases read
    · simp only [List.forall_mem_cons] at small
      dsimp only at read
      split at read
      · next clear =>
        obtain rfl := Except.ok.inj read
        have clear : c % 4 = 0 := by simpa using clear
        simp only [digits]
        rw [toNat_toUInt8 (by omega), toNat_toUInt8 (by omega)]
        simp only [List.cons.injEq, and_true]
        omega
      · cases read
    · simp only [List.forall_mem_cons] at small
      obtain rfl := Except.ok.inj read
      simpa [digits] using digits_threeOctets small.1 small.2.1 small.2.2.1 small.2.2.2.1 []
    · simp only [List.length_cons] at few
      omega
  · unfold padding
    cases filled : d.padded with
    | true =>
      have whole : (count + group.length) % 4 = 0 := by simpa [filled] using whole
      rw [if_pos rfl]
      congr 1
      omega
    | false =>
      have allowed : count = 0 := by simpa [filled] using allowed
      simp [allowed]

/-- One, two or three octets are the last group of their spelling. -/
theorem lastGroup_finish_spell (lawful : d.Lawful) {octets : List UInt8} (something : octets ≠ [])
    (few : octets.length ≤ 3) (start : Nat) :
    ∃ last, d.lastGroup start 0 ⟨[], 0, 0⟩ (d.spell octets) = .ok last ∧ 2 ≤ last.digits.length ∧
      d.finish start last = .ok octets := by
  have nonempty : 0 < octets.length := List.length_pos_iff.2 something
  have length := length_digits octets
  obtain ⟨symbol, symbols⟩ := lastGroup_symbols lawful (digits_lt octets) start 0 ⟨[], 0, 0⟩ rfl
    (d.padding (digits octets).length)
  have read : d.lastGroup start 0 ⟨[], 0, 0⟩ (d.spell octets) =
      .ok ⟨digits octets, symbol, (d.padding (digits octets).length).length⟩ := by
    rw [spell, symbols, padding]
    split
    · rw [lastGroup_pads (by omega)]
      simp
    · rfl
  refine ⟨_, read, by dsimp only; omega, ?_⟩
  unfold finish padding
  rcases octets with _ | ⟨a, _ | ⟨b, _ | ⟨c, _ | ⟨_, _⟩⟩⟩⟩
  · exact absurd rfl something
  · have := a.toNat_lt
    cases d.padded <;> simp [digits, ← UInt8.toNat_inj] <;> omega
  · have := a.toNat_lt
    have := b.toNat_lt
    cases d.padded <;> simp [digits, ← UInt8.toNat_inj] <;> omega
  · cases d.padded <;> simp [digits, threeOctets_digits]
  · simp only [List.length_cons] at few
    omega

/-! ## Texts -/

private theorem padding_add {full : Nat} (groups : full % 4 = 0) (symbols : Nat) :
    d.padding (full + symbols) = d.padding symbols := by
  unfold padding
  rw [Nat.add_mod, groups, Nat.zero_add, Nat.mod_mod]

/-- Full groups are spelt without padding, and the rest behind them. -/
theorem spell_append {front : List UInt8} (full : front.length % 3 = 0) (back : List UInt8) :
    d.spell (front ++ back) = (digits front).map d.symbol ++ d.spell back := by
  have groups : (digits front).length % 4 = 0 := by
    rw [length_digits]
    omega
  rw [spell, spell, digits_append full, List.map_append, List.length_append, padding_add groups,
    List.append_assoc]

private theorem length_spell_le {octets : List UInt8} (something : octets ≠ [])
    (few : octets.length ≤ 3) : 2 ≤ (d.spell octets).length ∧ (d.spell octets).length ≤ 4 := by
  have nonempty : 0 < octets.length := List.length_pos_iff.2 something
  have symbols := length_digits octets
  rw [spell, padding, List.length_append, List.length_map]
  split
  · rw [List.length_replicate]
    omega
  · rw [List.length_nil]
    omega

/-- A text that is read is the spelling of what it is read as. Looking at the last symbol first
decides nothing but its own refusal. -/
theorem spell_of_decode (lawful : d.Lawful) {text octets : List UInt8}
    (read : d.decode text = .ok octets) : text = d.spell octets := by
  unfold decode at read
  extract_lets start rest at read
  have read : rest () = .ok octets := by
    split at read
    · split at read
      · split at read
        · obtain ⟨_, -, read⟩ := bind_eq_ok_iff.1 read
          exact read
        · exact read
      · exact read
    · exact read
  obtain ⟨front, groups, read⟩ := bind_eq_ok_iff.1 read
  obtain ⟨last, grouped, read⟩ := bind_eq_ok_iff.1 read
  split at read
  · cases read
  next enough =>
  obtain ⟨back, finished, read⟩ := bind_eq_ok_iff.1 read
  obtain rfl := Except.ok.inj read
  have start_eq : start = (text.length - 1) / 4 * 4 := rfl
  have start_le : start ≤ text.length := by omega
  obtain ⟨whole, taken⟩ := spelled_of_groups lawful (by rw [List.length_take]; omega) groups
  have known : d.Shows last ([] ++ text.drop start) :=
    shows_of_lastGroup lawful ⟨rfl, by simp⟩ grouped
  rw [List.nil_append] at known
  have length := congrArg List.length known.spelled
  rw [List.length_drop, List.length_append, List.length_map, List.length_replicate] at length
  by_cases something : text = []
  · subst something
    obtain ⟨group, symbol, count⟩ := last
    obtain ⟨rfl, rfl⟩ : group = [] ∧ count = 0 := by
      simpa using known.spelled
    obtain rfl : back = [] := by simpa [finish, eq_comm] using finished
    obtain rfl : front = [] := by simpa [Dialect.groups, eq_comm] using groups
    simp [spell, digits, padding]
  · have short : ¬ last.digits.length < 2 := by simpa [something] using enough
    have several : 2 ≤ last.digits.length := by omega
    obtain ⟨same, padded⟩ := spelled_of_finish known.small several (by omega) finished
    calc text = text.take start ++ text.drop start := (List.take_append_drop start text).symm
      _ = (digits front).map d.symbol ++ d.spell back := by
          rw [taken, known.spelled, spell, same, padded]
      _ = d.spell (front ++ back) := (spell_append whole back).symm

/-- Octets are whole groups of three and a last group of one, two or three. -/
theorem exists_lastGroup {octets : List UInt8} (something : octets ≠ []) :
    ∃ front back, octets = front ++ back ∧ front.length % 3 = 0 ∧ back ≠ [] ∧ back.length ≤ 3 := by
  have nonempty : 0 < octets.length := List.length_pos_iff.2 something
  refine ⟨octets.take ((octets.length - 1) / 3 * 3), octets.drop ((octets.length - 1) / 3 * 3),
    (List.take_append_drop ..).symm, ?_, ?_, ?_⟩
  · rw [List.length_take]
    omega
  · rw [← List.length_pos_iff, List.length_drop]
    omega
  · rw [List.length_drop]
    omega

/-- Octets are read back from their spelling, the last group of which begins where the full ones
end. -/
theorem decode_spell_append (lawful : d.Lawful) {front back : List UInt8}
    (whole : front.length % 3 = 0) (something : back ≠ []) (few : back.length ≤ 3) :
    d.decode (d.spell (front ++ back)) = .ok (front ++ back) := by
  have symbols : ((digits front).map d.symbol).length = front.length / 3 * 4 := by
    rw [List.length_map, length_digits]
    omega
  obtain ⟨several, most⟩ := length_spell_le (d := d) something few
  rw [spell_append whole]
  have start : lastStart ((digits front).map d.symbol ++ d.spell back).length =
      ((digits front).map d.symbol).length := by
    rw [List.length_append, lastStart]
    omega
  have odd : (((digits front).map d.symbol ++ d.spell back).length % 4 == 1) = false := by
    rw [List.length_append, symbols]
    simp only [beq_eq_false_iff_ne, ne_eq]
    omega
  obtain ⟨last, grouped, enough, finished⟩ :=
    lastGroup_finish_spell lawful something few ((digits front).map d.symbol).length
  have ended : decide (last.digits.length < 2) = false := decide_eq_false (by omega)
  unfold decode
  simp only [start, List.take_left, List.drop_left, groups_spelled lawful whole, odd, grouped,
    finished, ended, Bool.and_false, Bool.false_eq_true, if_false, bind, Except.bind, pure,
    Except.pure]

/-- The spelling of octets is read as them. -/
theorem decode_spell (lawful : d.Lawful) (octets : List UInt8) :
    d.decode (d.spell octets) = .ok octets := by
  by_cases nothing : octets = []
  · subst nothing
    cases filled : d.padded <;>
      simp [spell, digits, padding, decode, lastStart, Dialect.groups, lastGroup, finish, filled,
        bind, Except.bind, pure, Except.pure]
  · obtain ⟨front, back, rfl, whole, something, few⟩ := exists_lastGroup nothing
    exact decode_spell_append lawful whole something few

/-- A text is read exactly when it is the spelling of octets, and as those. -/
theorem decode_eq_ok_iff (lawful : d.Lawful) {text octets : List UInt8} :
    d.decode text = .ok octets ↔ text = d.spell octets := by
  constructor
  · exact spell_of_decode lawful
  · rintro rfl
    exact decode_spell lawful octets

theorem spell_eq_nil_iff {octets : List UInt8} : d.spell octets = [] ↔ octets = [] := by
  rcases octets with _ | ⟨a, _ | ⟨b, _ | ⟨c, rest⟩⟩⟩ <;> simp [spell, digits, padding]

/-- A character text is the spelling of octets. -/
def Spells (d : Dialect) (text : String) (octets : List UInt8) : Prop :=
  text.toUTF8.toList = d.spell octets

/-- A text is read as octets just if it is their spelling. -/
theorem decodeText_eq_ok_iff (lawful : d.Lawful) {text : String} {octets : List UInt8} :
    d.decodeText text = .ok octets ↔ d.Spells text octets :=
  decode_eq_ok_iff lawful

private theorem length_toList_loop (octets : ByteArray) (i : Nat) (found : List UInt8) :
    (ByteArray.toList.loop octets i found).length = octets.size - i + found.length := by
  fun_induction ByteArray.toList.loop octets i found with
  | case1 i found inside ih =>
    rw [ih, List.length_cons]
    omega
  | case2 i found outside =>
    rw [List.length_reverse]
    omega

/-- Only the empty text spells nothing. -/
theorem Spells.ne_nil {text : String} {octets : List UInt8} (spells : d.Spells text octets)
    (something : text ≠ "") : octets ≠ [] := by
  rintro rfl
  have nothing : text.toUTF8.toList = [] := spells.trans (spell_eq_nil_iff.2 rfl)
  have size : text.toUTF8.size = 0 := by
    have length := length_toList_loop text.toUTF8 0 []
    rw [← ByteArray.toList, nothing] at length
    simpa using length.symm
  exact something (String.utf8ByteSize_eq_zero_iff.1 size)

end Dialect

theorem decodeText_urlSafe_iff {text : String} {octets : List UInt8} :
    urlSafe.decodeText text = .ok octets ↔ urlSafe.Spells text octets :=
  Dialect.decodeText_eq_ok_iff lawful_urlSafe

theorem decodeText_standard_iff {text : String} {octets : List UInt8} :
    standard.decodeText text = .ok octets ↔ standard.Spells text octets :=
  Dialect.decodeText_eq_ok_iff lawful_standard

end TokenGate.Base64
