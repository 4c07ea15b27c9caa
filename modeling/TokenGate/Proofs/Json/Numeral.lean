import Mathlib
import TokenGate.Json.Printer
import TokenGate.Json.Token
import TokenGate.Proofs.Text.Pieces

/-! # Written numbers are numbers

Every number is written as the parts of a literal, and those parts are found again in what is
written. An integer in the ranges that are kept exactly is read as itself. Any other number is read
as what its digits stand for, which is left open here: reading rounds, and need not come back to the
number that was written. -/

namespace TokenGate.Json

/-! ## Literals and their characters -/

/-- A run of at least one digit. -/
structure IsRun (ds : List Char) : Prop where
  something : ds ≠ []
  digits : ∀ c ∈ ds, c.isDigit = true

namespace Literal

/-- The characters of a literal, its exponent with a sign. -/
def spell (l : Literal) : List Char :=
  (if l.isNegative then ['-'] else []) ++ l.whole
    ++ (l.fraction.elim [] fun ds => '.' :: ds)
    ++ (l.exponent.elim [] fun (isNegative, ds) => 'e' :: (if isNegative then '-' else '+') :: ds)

/-- The parts of a literal are digits, without a zero that leads others. -/
structure Sound (l : Literal) : Prop where
  whole : IsRun l.whole
  leading : l.whole.head? = some '0' → l.whole.length = 1
  fraction : ∀ ds, l.fraction = some ds → IsRun ds
  exponent : ∀ isNegative ds, l.exponent = some (isNegative, ds) → IsRun ds

end Literal

/-- A run of digits ends where something else begins. -/
theorem digitRun?_append {ds : List Char} (run : IsRun ds) (rest : List Char)
    (ends : ∀ c, rest.head? = some c → c.isDigit = false) :
    digitRun? (ds ++ rest) = some (ds, rest) := by
  unfold digitRun?
  rw [Text.takeWhile_append_of_head run.digits ends, Text.dropWhile_append_of_head run.digits ends]
  cases ds with
  | nil => exact absurd rfl run.something
  | cons c ds => rfl

private theorem exponentPart?_spell {exponent : Option (Bool × List Char)}
    (runs : ∀ isNegative ds, exponent = some (isNegative, ds) → IsRun ds) :
    exponentPart? (exponent.elim [] fun (isNegative, ds) =>
      'e' :: (if isNegative then '-' else '+') :: ds) = some exponent := by
  cases exponent with
  | none => rfl
  | some part =>
    obtain ⟨isNegative, ds⟩ := part
    have run := digitRun?_append (runs isNegative ds rfl) [] nofun
    rw [List.append_nil] at run
    cases isNegative <;> simp [exponentPart?, run]

/-- A literal behind its sign. -/
def unsigned? (isNegative : Bool) (cs : List Char) : Option Literal := do
  let (whole, rest) ← digitRun? cs
  if whole.head? == some '0' && whole.length != 1 then none
  match rest with
  | '.' :: rest =>
    let (fraction, rest) ← digitRun? rest
    return ⟨isNegative, whole, some fraction, ← exponentPart? rest⟩
  | _ => return ⟨isNegative, whole, none, ← exponentPart? rest⟩

private theorem literal?_of_ne {cs : List Char} (unsigned : cs.head? ≠ some '-') :
    literal? cs = unsigned? false cs := by
  unfold literal?
  split
  next isNegative rest signed =>
  split at signed
  · exact absurd List.head?_cons unsigned
  · cases signed
    rfl

private theorem unsigned?_spell {isNegative : Bool} {whole : List Char}
    {fraction : Option (List Char)} {exponent : Option (Bool × List Char)}
    (sound : Literal.Sound ⟨isNegative, whole, fraction, exponent⟩) :
    unsigned? isNegative (whole ++ ((fraction.elim [] fun ds => '.' :: ds) ++
      (exponent.elim [] fun (isNegative, ds) =>
        'e' :: (if isNegative then '-' else '+') :: ds))) =
      some ⟨isNegative, whole, fraction, exponent⟩ := by
  obtain ⟨run, leading, fractionRun, exponentRun⟩ := sound
  dsimp only at run leading fractionRun exponentRun
  have found := exponentPart?_spell exponentRun
  have headless : (whole.head? == some '0' && whole.length != 1) = false := by
    cases first : whole.head? == some '0' with
    | false => rfl
    | true => simp [leading (by simpa using first)]
  generalize spelt : (exponent.elim [] fun (isNegative, ds) =>
    'e' :: (if isNegative then '-' else '+') :: ds) = behind at found ⊢
  have ends : ∀ c, behind.head? = some c → c = 'e' := by
    subst spelt
    cases exponent with
    | none => exact nofun
    | some part => exact fun c first => (Option.some.inj first).symm
  cases fraction with
  | none =>
    have wholeFound := digitRun?_append run behind fun c first => by
      rw [ends c first]
      rfl
    have pointless : ∀ rest, behind ≠ '.' :: rest := by
      rintro rest rfl
      exact absurd (ends '.' rfl) (by decide)
    unfold unsigned?
    simp only [Option.elim_none, List.nil_append, wholeFound, Option.bind_eq_bind, Option.bind_some,
      headless, Bool.false_eq_true, if_false, found]
    rfl
  | some ds =>
    have fractionFound := digitRun?_append (fractionRun ds rfl) behind fun c first => by
      rw [ends c first]
      rfl
    have wholeFound := digitRun?_append run ('.' :: (ds ++ behind)) fun c first => by
      obtain rfl := Option.some.inj first
      rfl
    unfold unsigned?
    simp only [Option.elim_some, List.cons_append, wholeFound, Option.bind_eq_bind,
      Option.bind_some, headless, Bool.false_eq_true, if_false, fractionFound, found]
    rfl

/-- The parts of a literal are found again in its characters. -/
theorem literal?_spell {l : Literal} (sound : l.Sound) : literal? l.spell = some l := by
  obtain ⟨isNegative, whole, fraction, exponent⟩ := l
  have unsigned := unsigned?_spell sound
  unfold Literal.spell
  dsimp only
  rw [List.append_assoc, List.append_assoc]
  cases isNegative with
  | true => exact unsigned
  | false =>
    rw [if_neg Bool.false_ne_true, List.nil_append, literal?_of_ne, unsigned]
    obtain ⟨run, -, -, -⟩ := sound
    dsimp only at run
    cases whole with
    | nil => exact absurd rfl run.something
    | cons c whole =>
      rintro first
      obtain rfl := Option.some.inj first
      exact absurd (run.digits '-' (List.mem_cons_self ..)) (by decide)

/-! ## Digits of numbers -/

theorem isRun_digits (n : Nat) : IsRun (digits n) where
  something := Nat.toDigits_ne_nil
  digits _ member := Nat.isDigit_of_mem_toDigits (by decide) (by decide) member

/-- Only zero begins with a zero. -/
theorem head?_digits {n : Nat} (positive : 0 < n) : (digits n).head? ≠ some '0' := by
  induction n using Nat.strongRecOn with
  | ind n ih =>
    rw [digits, Nat.toDigits_eq_if (by decide)]
    split
    · next small =>
      intro zero
      have all : ∀ m < 10, 0 < m → Nat.digitChar m ≠ '0' := by decide
      exact all n small positive (Option.some.inj zero)
    · next large =>
      rw [List.head?_append_of_ne_nil _ Nat.toDigits_ne_nil]
      exact ih (n / 10) (by omega) (by omega)

private theorem leading_digits (n : Nat) : (digits n).head? = some '0' → (digits n).length = 1 := by
  intro zero
  rcases Nat.eq_zero_or_pos n with rfl | positive
  · rfl
  · exact absurd zero (head?_digits positive)

private theorem IsRun.append {ds ds' : List Char} (run : IsRun ds)
    (more : ∀ c ∈ ds', c.isDigit = true) : IsRun (ds ++ ds') where
  something := List.append_ne_nil_of_left_ne_nil run.something ds'
  digits c member := (List.mem_append.1 member).elim (run.digits c) (more c)

private theorem isDigit_of_mem_zeros {count : Nat} {c : Char}
    (member : c ∈ List.replicate count '0') : c.isDigit = true := by
  rw [List.eq_of_mem_replicate member]
  rfl

/-- Digits cut in two. -/
theorem IsRun.cut {ds : List Char} (run : IsRun ds) (place : Nat) (inside : 0 < place)
    (before : place < ds.length) : IsRun (ds.take place) ∧ IsRun (ds.drop place) := by
  refine ⟨⟨?_, fun c member => run.digits c (List.mem_of_mem_take member)⟩,
    ⟨?_, fun c member => run.digits c (List.mem_of_mem_drop member)⟩⟩
  · apply List.ne_nil_of_length_pos
    rw [List.length_take]
    omega
  · apply List.ne_nil_of_length_pos
    rw [List.length_drop]
    omega

/-- A magnitude is written as a literal without sign: with all its digits in front of the point,
with the point between two of them, or with zeros between the point and the digits. -/
theorem exists_literal_layout (x : Decimal.Binary64) :
    ∃ l : Literal, l.Sound ∧ l.isNegative = false ∧ layout.write x = l.spell := by
  have zeroRun : IsRun ['0'] := ⟨List.cons_ne_nil _ _, by simp⟩
  unfold Layout.write
  dsimp only
  generalize x.shortest = s
  split
  · exact ⟨⟨false, ['0'], some ['0'], none⟩,
      ⟨zeroRun, fun _ => rfl, fun ds same => Option.some.inj same ▸ zeroRun, nofun⟩, rfl, rfl⟩
  next something =>
  have positive : 0 < s.digits := Nat.pos_of_ne_zero (by simpa using something)
  have run := isRun_digits s.digits
  have first := head?_digits positive
  have length : 0 < (digits s.digits).length := List.length_pos_of_ne_nil run.something
  generalize digits s.digits = ds at run first length ⊢
  split
  · split
    · refine ⟨⟨false, ds ++ List.replicate s.exponent.toNat '0', some ['0'], none⟩,
        ⟨run.append fun c => isDigit_of_mem_zeros, fun zero => ?_,
          fun ds same => Option.some.inj same ▸ zeroRun, nofun⟩, rfl, by simp [Literal.spell]⟩
      rw [List.head?_append_of_ne_nil _ run.something] at zero
      exact absurd zero first
    next negative =>
    split
    · next upper =>
      obtain ⟨front, back⟩ :=
        run.cut ((s.exponent + ds.length - 1).toNat + 1) (by omega) (by omega)
      refine ⟨⟨false, _, some _, none⟩, ⟨front, fun zero => ?_,
        fun ds same => Option.some.inj same ▸ back, nofun⟩, rfl, by simp [Literal.spell]⟩
      rw [List.head?_take, if_neg (by omega)] at zero
      exact absurd zero first
    · refine ⟨⟨false, ['0'],
          some (List.replicate (-(s.exponent + ds.length - 1) - 1).toNat '0' ++ ds), none⟩,
        ⟨zeroRun, fun _ => rfl, fun ds' same => Option.some.inj same ▸ ?_, nofun⟩, rfl,
        by simp [Literal.spell]⟩
      refine ⟨List.append_ne_nil_of_right_ne_nil _ run.something, fun c member => ?_⟩
      exact (List.mem_append.1 member).elim isDigit_of_mem_zeros (run.digits c)
  · generalize s.exponent + ds.length - 1 = lead
    have exponentRun : ∀ isNegative ds, some (decide (lead < 0), digits lead.natAbs) =
        some (isNegative, ds) → IsRun ds := by
      intro isNegative ds same
      obtain ⟨-, rfl⟩ := Prod.mk.inj (Option.some.inj same)
      exact isRun_digits _
    match ds, run with
    | [], run => exact absurd rfl run.something
    | [d], run =>
      refine ⟨⟨false, [d], none, some (decide (lead < 0), digits lead.natAbs)⟩,
        ⟨run, fun _ => rfl, nofun, exponentRun⟩, rfl, ?_⟩
      simp [Literal.spell]
    | d :: e :: rest, run =>
      obtain ⟨front, back⟩ := run.cut 1 (by decide) (by simp)
      refine ⟨⟨false, [d], some (e :: rest), some (decide (lead < 0), digits lead.natAbs)⟩,
        ⟨front, fun _ => rfl, fun ds same => Option.some.inj same ▸ back, exponentRun⟩, rfl, ?_⟩
      simp [Literal.spell]

/-- An integer is written as a sound literal. -/
theorem sound_digits (isNegative : Bool) (n : Nat) :
    Literal.Sound ⟨isNegative, digits n, none, none⟩ :=
  ⟨isRun_digits n, leading_digits n, nofun, nofun⟩

theorem write_natural (n : UInt64) :
    (Number.natural n).write = Literal.spell ⟨false, digits n.toNat, none, none⟩ := by
  simp [Number.write, Literal.spell]

theorem write_negative (n : UInt64) :
    (Number.negative n).write = Literal.spell ⟨true, digits n.toNat, none, none⟩ := by
  simp [Number.write, Literal.spell]

/-- Every number is written as a literal. -/
theorem exists_literal (n : Number) : ∃ l : Literal, l.Sound ∧ n.write = l.spell := by
  cases n with
  | natural n => exact ⟨_, sound_digits false n.toNat, write_natural n⟩
  | negative n => exact ⟨_, sound_digits true n.toNat, write_negative n⟩
  | real isNegative x =>
    obtain ⟨⟨_, whole, fraction, exponent⟩, sound, rfl, written⟩ := exists_literal_layout x
    refine ⟨⟨isNegative, whole, fraction, exponent⟩, ⟨sound.whole, sound.leading, sound.fraction,
      sound.exponent⟩, ?_⟩
    rw [Number.write, written]
    simp [Literal.spell]

/-! ## Words -/

private theorem isWordChar_of_isDigit {c : Char} (digit : c.isDigit = true) :
    isWordChar c = true := by
  simp [isWordChar, Char.isAlphanum, digit]

theorem isWordChar_of_mem_spell {l : Literal} (sound : l.Sound) :
    ∀ c ∈ l.spell, isWordChar c = true := by
  obtain ⟨isNegative, whole, fraction, exponent⟩ := l
  obtain ⟨run, -, fractionRun, exponentRun⟩ := sound
  dsimp only at run fractionRun exponentRun
  have minus : isWordChar '-' = true := by decide
  have plus : isWordChar '+' = true := by decide
  have sign : ∀ c ∈ (if isNegative then ['-'] else []), isWordChar c = true := by
    cases isNegative <;> simp [minus]
  have wholeChars : ∀ c ∈ whole, isWordChar c = true :=
    fun c member => isWordChar_of_isDigit (run.digits c member)
  have fractionChars : ∀ c ∈ (fraction.elim [] fun ds => '.' :: ds), isWordChar c = true := by
    cases fraction with
    | none => simp
    | some ds =>
      simp only [Option.elim_some, List.forall_mem_cons]
      exact ⟨by decide, fun c member =>
        isWordChar_of_isDigit ((fractionRun ds rfl).digits c member)⟩
  have exponentChars : ∀ c ∈ (exponent.elim [] fun (isNegative, ds) =>
      'e' :: (if isNegative then '-' else '+') :: ds), isWordChar c = true := by
    cases exponent with
    | none => simp
    | some part =>
      obtain ⟨isNegative, ds⟩ := part
      simp only [Option.elim_some, List.forall_mem_cons]
      exact ⟨by decide, by cases isNegative <;> simp [minus, plus], fun c member =>
        isWordChar_of_isDigit ((exponentRun isNegative ds rfl).digits c member)⟩
  intro c member
  simp only [Literal.spell, List.mem_append] at member
  rcases member with ((member | member) | member) | member
  · exact sign c member
  · exact wholeChars c member
  · exact fractionChars c member
  · exact exponentChars c member

/-- The first character of a literal. -/
theorem head_spell {l : Literal} (sound : l.Sound) :
    ∃ c rest, l.spell = c :: rest ∧ (c = '-' ∨ c.isDigit = true) := by
  obtain ⟨isNegative, whole, fraction, exponent⟩ := l
  obtain ⟨run, -, -, -⟩ := sound
  cases isNegative with
  | true => exact ⟨'-', _, rfl, Or.inl rfl⟩
  | false =>
    cases whole with
    | nil => exact absurd rfl run.something
    | cons c whole => exact ⟨c, _, rfl, Or.inr (run.digits c (List.mem_cons_self ..))⟩

/-- A sound literal is read as a number. -/
theorem word?_spell {l : Literal} (sound : l.Sound) :
    word? l.spell = some (.number l.number?) := by
  obtain ⟨c, rest, spelt, first⟩ := head_spell sound
  have letters : c ≠ 'n' ∧ c ≠ 't' ∧ c ≠ 'f' := by
    refine ⟨?_, ?_, ?_⟩ <;> rintro rfl <;> revert first <;> decide
  have null : (c :: rest == ['n', 'u', 'l', 'l']) = false := by simp [letters.1]
  have yes : (c :: rest == ['t', 'r', 'u', 'e']) = false := by simp [letters.2.1]
  have no : (c :: rest == ['f', 'a', 'l', 's', 'e']) = false := by simp [letters.2.2]
  have found := literal?_spell sound
  rw [spelt] at found ⊢
  simp only [word?, null, yes, no, Bool.false_eq_true, if_false, found, Option.map_some]

/-! ## What is read -/

/-- The number that a written number is read as. -/
def Number.reread? (n : Number) : Option Number := (literal? n.write).bind Literal.number?

/-- A number that is written as a literal is read as what the literal stands for. -/
theorem reread?_of_spell {n : Number} {l : Literal} (sound : l.Sound)
    (written : n.write = l.spell) :
    n.reread? = l.number? := by
  rw [Number.reread?, written, literal?_spell sound, Option.bind_some]

private theorem le_ofDigitChars (ds : List Char) (start : Nat) :
    start ≤ Nat.ofDigitChars 10 ds start := by
  induction ds generalizing start with
  | nil => exact Nat.le_refl start
  | cons c ds ih =>
    rw [Nat.ofDigitChars_cons]
    exact le_trans (by omega) (ih _)

/-- All digits are taken into a significand that has room for them. -/
theorem takeDigits_eq {ds : List Char} (start : Nat)
    (room : Nat.ofDigitChars 10 ds start ≤ significandLimit) :
    takeDigits start ds = (Nat.ofDigitChars 10 ds start, ds.length) := by
  induction ds generalizing start with
  | nil => rfl
  | cons c ds ih =>
    have next : start * 10 + (c.toNat - 48) = 10 * start + (c.toNat - '0'.toNat) := by
      rw [Nat.mul_comm]
      rfl
    rw [Nat.ofDigitChars_cons] at room ⊢
    have fits := (le_ofDigitChars ds _).trans room
    simp only [takeDigits, next, fits, if_true, ih _ room, List.length_cons]

private theorem takeDigits_digits {n : Nat} (room : n ≤ significandLimit) :
    takeDigits 0 (digits n) = (n, (digits n).length) := by
  have value : Nat.ofDigitChars 10 (digits n) 0 = n := Nat.ofDigitChars_ten_toDigits
  rw [takeDigits_eq 0 (by rwa [value]), value]

/-- An integer literal of digits that fit is the integer. -/
theorem number?_digits (isNegative : Bool) {n : Nat} (room : n ≤ significandLimit) :
    Literal.number? ⟨isNegative, digits n, none, none⟩ =
      if !isNegative then some (.natural n.toUInt64)
      else if 0 < n && n ≤ Nat.pow 2 63 then some (.negative n.toUInt64)
      else (Decimal.Binary64.ofScaled? n 0).map (.real true) := by
  simp [Literal.number?, takeDigits_digits room]

theorem reread?_natural (n : UInt64) : (Number.natural n).reread? = some (.natural n) := by
  have room : n.toNat ≤ significandLimit := Nat.le_sub_one_of_lt n.toNat_lt
  rw [reread?_of_spell (sound_digits false n.toNat) (write_natural n), number?_digits false room]
  simp

/-- An integer below zero, as far as it is kept exactly. -/
theorem reread?_negative {n : UInt64} (positive : 0 < n.toNat) (small : n.toNat ≤ Nat.pow 2 63) :
    (Number.negative n).reread? = some (.negative n) := by
  have room : n.toNat ≤ significandLimit := Nat.le_sub_one_of_lt n.toNat_lt
  rw [reread?_of_spell (sound_digits true n.toNat) (write_negative n), number?_digits true room]
  simp [positive, small]

end TokenGate.Json
