import TokenGate.Proofs.Url.Web

/-! # Authorities that end in a blank

No step of reading a host loses a blank or a control: percent-decoding, UTF-8, folding and composing
keep it in its name, and no label may have one. So an authority that ends in one is refused, be it
the end of a name, of an address or of a port. -/

namespace TokenGate

open Text

namespace Url

theorem toNat_lt_of_isEdge {c : Char} (edge : isEdge c = true) : c.toNat < 128 :=
  Nat.lt_of_le_of_lt (of_decide_eq_true edge) (by decide)

/-- What holds of the blanks and controls one by one. -/
theorem forall_edge {p : Char → Prop}
    (all : ∀ n < 128, isEdge (Char.ofNat n) = true → p (Char.ofNat n)) {c : Char}
    (edge : isEdge c = true) : p c :=
  forall_ascii (p := fun c => isEdge c = true → p c) all (toNat_lt_of_isEdge edge) edge

/-- A blank or control has no meaning in a number, and no case. -/
theorem plain_of_isEdge {c : Char} (edge : isEdge c = true) :
    hexDigit? c = none ∧ c.isDigit = false ∧ c.toLower = c :=
  forall_edge (p := fun c => hexDigit? c = none ∧ c.isDigit = false ∧ c.toLower = c) (by decide)
    edge

/-- A blank or control is no mark of a URL. -/
theorem unmarked_of_isEdge {c : Char} (edge : isEdge c = true) :
    endsAuthority .special c = false ∧ c ≠ ':' ∧ c ≠ '@' ∧ c ≠ '.' ∧ c ≠ '[' ∧ c ≠ ']' :=
  forall_edge (p := fun c =>
    endsAuthority .special c = false ∧ c ≠ ':' ∧ c ≠ '@' ∧ c ≠ '.' ∧ c ≠ '[' ∧ c ≠ ']')
    (by decide) edge

end Url

namespace Text

theorem not_ascii_of_continuation? {octet : UInt8} {bits : Nat}
    (continues : continuation? octet = some bits) : ¬ octet < 0x80 := by
  unfold continuation? at continues
  split at continues
  · next range =>
    simp only [Bool.and_eq_true, decide_eq_true_eq] at range
    exact UInt8.not_lt.2 range.1
  · cases continues

private theorem not_ascii_of_twoOctets? {a b : UInt8} {x : Char} (read : twoOctets? a b = some x) :
    ¬ b < 0x80 := by
  unfold twoOctets? at read
  split at read
  · obtain ⟨bits, continues, -⟩ := Option.bind_eq_some_iff.1 read
    exact not_ascii_of_continuation? continues
  · cases read

private theorem not_ascii_of_threeOctets? {a b c : UInt8} {x : Char}
    (read : threeOctets? a b c = some x) : ¬ b < 0x80 ∧ ¬ c < 0x80 := by
  unfold threeOctets? at read
  split at read
  · obtain ⟨bits, second, read⟩ := Option.bind_eq_some_iff.1 read
    obtain ⟨bits', third, -⟩ := Option.bind_eq_some_iff.1 read
    exact ⟨not_ascii_of_continuation? second, not_ascii_of_continuation? third⟩
  · cases read

private theorem not_ascii_of_fourOctets? {a b c d : UInt8} {x : Char}
    (read : fourOctets? a b c d = some x) : ¬ b < 0x80 ∧ ¬ c < 0x80 ∧ ¬ d < 0x80 := by
  unfold fourOctets? at read
  split at read
  · obtain ⟨bits, second, read⟩ := Option.bind_eq_some_iff.1 read
    obtain ⟨bits', third, read⟩ := Option.bind_eq_some_iff.1 read
    obtain ⟨bits'', fourth, -⟩ := Option.bind_eq_some_iff.1 read
    exact ⟨not_ascii_of_continuation? second, not_ascii_of_continuation? third,
      not_ascii_of_continuation? fourth⟩
  · cases read

/-- An ASCII octet is a character of its own wherever it stands, since none of the octets that a
wider character takes up is ASCII. -/
theorem char_mem_symbols {octets : List UInt8} {o : UInt8} (ascii : o < 0x80)
    (member : o ∈ octets) : Symbol.char (Char.ofUInt8 o) ∈ symbols octets := by
  have other {b : UInt8} (wide : ¬ b < 0x80) : o ≠ b := fun same => wide (same ▸ ascii)
  fun_induction symbols octets with
  | case1 => cases member
  | case2 a rest small ih =>
    rcases List.mem_cons.1 member with rfl | member
    · exact List.mem_cons_self ..
    · exact List.mem_cons_of_mem _ (ih member)
  | case3 a wide b c d rest x read ih =>
    have second := not_ascii_of_twoOctets? read
    simp only [List.mem_cons, other wide, other second, false_or] at member
    exact List.mem_cons_of_mem _ (ih (by simpa using member))
  | case4 a wide b c d rest x read _ ih =>
    obtain ⟨second, third⟩ := not_ascii_of_threeOctets? read
    simp only [List.mem_cons, other wide, other second, other third, false_or] at member
    exact List.mem_cons_of_mem _ (ih (by simpa using member))
  | case5 a wide b c d rest x read _ _ ih =>
    obtain ⟨second, third, fourth⟩ := not_ascii_of_fourOctets? read
    simp only [List.mem_cons, other wide, other second, other third, other fourth, false_or]
      at member
    exact List.mem_cons_of_mem _ (ih member)
  | case7 a wide b c x read ih =>
    have second := not_ascii_of_twoOctets? read
    simp only [List.mem_cons, other wide, other second, false_or] at member
    exact List.mem_cons_of_mem _ (ih (by simpa using member))
  | case8 a wide b c x read _ =>
    obtain ⟨second, third⟩ := not_ascii_of_threeOctets? read
    simp [other wide, other second, other third] at member
  | case10 a wide b x read =>
    have second := not_ascii_of_twoOctets? read
    simp [other wide, other second] at member
  | case12 a wide => simp [other wide] at member
  | case6 a wide _ _ _ _ _ _ _ ih | case9 a wide _ _ _ _ ih | case11 a wide _ _ ih =>
    exact List.mem_cons_of_mem _ (ih ((List.mem_cons.1 member).resolve_left (other wide)))

theorem exists_of_mapM {α β : Type} {f : α → Option β} {items : List α} {read : List β}
    (all : items.mapM f = some read) {a : α} (member : a ∈ items) : ∃ b ∈ read, f a = some b := by
  induction items generalizing read with
  | nil => cases member
  | cons first items ih =>
    simp only [List.mapM_cons, bind, Option.bind_eq_some_iff, pure] at all
    obtain ⟨value, own, rest, behind, same⟩ := all
    obtain rfl := Option.some.inj same
    rcases List.mem_cons.1 member with rfl | member
    · exact ⟨value, List.mem_cons_self .., own⟩
    · obtain ⟨b, inside, given⟩ := ih behind member
      exact ⟨b, List.mem_cons_of_mem _ inside, given⟩

/-- The text that octets encode has all the ASCII characters among them. -/
theorem mem_of_decodeUtf8? {octets : List UInt8} {text : String}
    (decoded : decodeUtf8? octets = some text) {c : Char} (ascii : c.toNat < 128)
    (member : c.toNat.toUInt8 ∈ octets) : c ∈ text.toList := by
  have octet : c.toNat.toUInt8 < 0x80 ∧ Char.ofUInt8 c.toNat.toUInt8 = c :=
    forall_ascii (p := fun c => c.toNat.toUInt8 < 0x80 ∧ Char.ofUInt8 c.toNat.toUInt8 = c)
      (by decide +kernel) ascii
  obtain ⟨cs, all, rfl⟩ := Option.map_eq_some_iff.1 decoded
  have shown := char_mem_symbols octet.1 member
  rw [octet.2] at shown
  obtain ⟨d, inside, same⟩ := exists_of_mapM all shown
  obtain rfl : c = d := Option.some.inj same
  rwa [String.toList_ofList]

end Text

/-- A blank or control is no part of an encoded octet. -/
theorem Percent.mem_decode {c : Char} (edge : Url.isEdge c = true) {cs : List Char}
    (member : c ∈ cs) : c.toNat.toUInt8 ∈ decode cs := by
  have digit := (Url.plain_of_isEdge edge).1
  fun_induction decode cs with
  | case1 => cases member
  | case2 a b rest _ _ second first ih =>
    simp only [List.mem_cons] at member
    rcases member with rfl | rfl | rfl | member
    · cases edge
    · cases digit.symm.trans first
    · cases digit.symm.trans second
    · exact List.mem_cons_of_mem _ (ih member)
  | case3 a b rest _ ih =>
    rcases List.mem_cons.1 member with rfl | member
    · cases edge
    · exact List.mem_cons_of_mem _ (ih member)
  | case4 d rest _ ih =>
    rcases List.mem_cons.1 member with rfl | member
    · rw [encodeUtf8_singleton (Url.toNat_lt_of_isEdge edge)]
      exact List.mem_append_left _ (List.mem_cons_self ..)
    · exact List.mem_append_right _ (ih member)

namespace Text.Composition

/-- The numbers of a line are above those of the blanks and controls. -/
def isAbove (line : List Char) : Bool :=
  (wordChars line).all fun record => (recordNumbers record).all (0x20 < ·)

/-- One line more of a table, the check of which comes before the checks of the rest. -/
theorem lt_of_mem_cons {line : List Char} {rest : List String} {b : Bool}
    (below : b = true → ∀ ns ∈ records rest, ∀ n ∈ ns, 0x20 < n)
    (checked : (isAbove line && b) = true) :
    ∀ ns ∈ records (String.ofList line :: rest), ∀ n ∈ ns, 0x20 < n := by
  obtain ⟨above, others⟩ := (Bool.and_eq_true ..).mp checked
  have own : ∀ ns ∈ (wordChars line).map recordNumbers, ∀ n ∈ ns, 0x20 < n := by
    simpa [isAbove] using above
  intro ns member
  rw [records, List.flatMap_cons, String.toList_ofList] at member
  rcases List.mem_append.1 member with inside | later
  · exact own ns inside
  · exact below others ns later

/-- No blank or control is in the table. The checks of its lines are put together and carried out as
one. -/
theorem lt_of_mem_pairTable : ∀ ns ∈ records pairTable, ∀ n ∈ ns, 0x20 < n := by
  have together : ∃ check : Bool,
      (check = true → ∀ ns ∈ records pairTable, ∀ n ∈ ns, 0x20 < n) ∧ check = true := by
    unfold pairTable
    apply Exists.intro
    apply And.intro
    · repeat apply lt_of_mem_cons
      exact fun _ : true = true => by simp [records]
    · decide +kernel
  obtain ⟨_, lines, checked⟩ := together
  exact lines checked

private theorem lt_of_mem_pairs {p : Pair} (member : p ∈ pairs) :
    0x20 < p.first ∧ 0x20 < p.second := by
  obtain ⟨ns, listed, pair⟩ := List.mem_filterMap.1 member
  have above := lt_of_mem_pairTable ns listed
  unfold Pair.ofNumbers? at pair
  split at pair
  · obtain rfl := Option.some.inj pair
    exact ⟨above _ (by simp), above _ (by simp)⟩
  · cases pair

/-- A blank or control is composed with nothing. -/
theorem join?_of_edge {a b : Char} (edge : Url.isEdge a = true ∨ Url.isEdge b = true) :
    join? a b = none := by
  simp only [Url.isEdge, decide_eq_true_eq] at edge
  have hangul : joinSyllable? a.toNat b.toNat = none := by
    simp only [joinSyllable?, Bool.and_eq_true, decide_eq_true_eq]
    rw [if_neg (by omega), if_neg (by omega)]
  have none : pairs.find? (fun p => p.first == a.toNat && p.second == b.toNat) = none := by
    refine List.find?_eq_none.2 fun p member => ?_
    obtain ⟨first, second⟩ := lt_of_mem_pairs member
    simp only [Bool.and_eq_true, beq_iff_eq]
    omega
  rw [join?, hangul, none]
  rfl

private theorem mem_insertMark {c d : Char} {marks : List Char} :
    c ∈ insertMark d marks ↔ c = d ∨ c ∈ marks := by
  induction marks with
  | nil => simp [insertMark]
  | cons e rest ih =>
    unfold insertMark
    split
    · simp only [List.mem_cons, ih]
      tauto
    · simp only [List.mem_cons]

private theorem mem_reorder {c : Char} {cs : List Char} (member : c ∈ cs) : c ∈ reorder cs := by
  suffices ∀ (cs sorted : List Char), c ∈ cs ∨ c ∈ sorted → c ∈ cs.foldl (fun sorted c =>
      if combiningClass c == 0 then c :: sorted else insertMark c sorted) sorted from
    List.mem_reverse.2 (this cs [] (.inl member))
  intro cs
  induction cs with
  | nil => simp
  | cons d rest ih =>
    intro sorted held
    refine ih _ ?_
    dsimp only
    split <;> simp only [List.mem_cons, mem_insertMark] at held ⊢ <;> tauto

private theorem mem_decompose {c : Char} (edge : Url.isEdge c = true) {cs : List Char}
    (member : c ∈ cs) : c ∈ decompose cs := by
  have low : c.toNat < 0xC0 := Nat.lt_trans (Url.toNat_lt_of_isEdge edge) (by decide)
  have layer {cs : List Char} (member : c ∈ cs) : c ∈ cs.flatMap split :=
    List.mem_flatMap.2 ⟨c, member, by simp [split, low]⟩
  exact layer (layer (layer (layer member)))

/-- Joining keeps the blanks and controls of a text, and the one that comes next. -/
theorem Joining.mem_push {c d : Char} (edge : Url.isEdge c = true) {j : Joining}
    (held : c = d ∨ c ∈ j.text) : c ∈ (j.push d).text := by
  unfold push
  dsimp only
  split
  · next whole joined =>
    split at joined
    · obtain ⟨letter, last, joins⟩ := Option.bind_eq_some_iff.1 joined
      have other : c ≠ letter ∧ c ≠ d := by
        refine ⟨?_, ?_⟩ <;> rintro rfl <;> rw [join?_of_edge (by simp [edge])] at joins <;>
          cases joins
      simp only [text, last, Option.toList_some, List.mem_append, List.mem_singleton, other.1,
        other.2, false_or, or_false] at held ⊢
      exact held.imp_left .inl
    · cases joined
  · split <;> simp only [text, Option.toList_some, List.nil_append, List.cons_append,
      List.mem_cons, List.mem_append] at held ⊢ <;> tauto

private theorem mem_compose {c : Char} (edge : Url.isEdge c = true) {cs : List Char}
    (member : c ∈ cs) : c ∈ compose cs := by
  suffices ∀ (cs : List Char) (j : Joining), c ∈ cs ∨ c ∈ j.text →
      c ∈ (cs.foldl Joining.push j).text from
    List.mem_reverse.2 (this _ _ (.inl (mem_reorder (mem_decompose edge member))))
  intro cs
  induction cs with
  | nil => simp
  | cons d rest ih =>
    intro j held
    rcases held with member | held
    · rcases List.mem_cons.1 member with rfl | member
      · exact ih _ (.inr (j.mem_push edge (.inl rfl)))
      · exact ih _ (.inl member)
    · exact ih _ (.inr (j.mem_push edge (.inr held)))

end Text.Composition

namespace Domain

private theorem mem_canonical {c : Char} (edge : Url.isEdge c = true) {name : List Char}
    (member : c ∈ name) : c ∈ canonical name := by
  refine Composition.mem_compose edge (List.mem_flatMap.2 ⟨c, member, ?_⟩)
  rw [Folding.foldChar, if_pos (Url.toNat_lt_of_isEdge edge), (Url.plain_of_isEdge edge).2.2]
  exact List.mem_cons_self ..

private theorem isForbidden_of_edge {c : Char} (edge : Url.isEdge c = true) :
    isForbidden c = true := by
  simp only [Url.isEdge] at edge
  simp only [isForbidden, edge, Bool.true_or]

/-- Where every character of a label may stand, none of the forbidden ones does. -/
theorem allowed_of_allAllowed {before label : List Char}
    (allowed : allAllowed before label = true) {c : Char} (member : c ∈ label)
    (ascii : isAscii c = true) : isForbidden c = false := by
  induction label generalizing before with
  | nil => cases member
  | cons d rest ih =>
    simp only [allAllowed, Bool.and_eq_true] at allowed
    rcases List.mem_cons.1 member with rfl | member
    · simpa [isAllowed, ascii] using allowed.1
    · exact ih allowed.2 member

private theorem asciiLabel?_of_edge {c : Char} (edge : Url.isEdge c = true) {label : List Char}
    (member : c ∈ label) : asciiLabel? label = none := by
  have forbidden := isForbidden_of_edge edge
  have ascii : isAscii c = true := decide_eq_true (Url.toNat_lt_of_isEdge edge)
  have unlabelled : isAsciiLabel label = false := by
    have found : label.all (fun c => !isForbidden c) = false :=
      List.all_eq_false.2 ⟨c, member, by simp [forbidden]⟩
    rw [isAsciiLabel, found, Bool.false_and]
  have unlabelled' : isLabel label = false := by
    rw [← Bool.not_eq_true, isLabel, Bool.and_eq_true]
    rintro ⟨-, allowed⟩
    rw [allowed_of_allAllowed allowed member ascii] at forbidden
    cases forbidden
  unfold asciiLabel?
  split
  · rw [if_neg (by simp [unlabelled])]
  · rw [if_neg (by simp [unlabelled'])]

/-- A name with a blank or control has no ASCII form. -/
theorem ascii?_of_edge {c : Char} (edge : Url.isEdge c = true) {name : List Char}
    (member : c ∈ name) : ascii? name = none := by
  have kept : c ∈ if name.all isAscii then name.map Char.toLower else canonical name := by
    split
    · exact List.mem_map.2 ⟨c, member, (Url.plain_of_isEdge edge).2.2⟩
    · exact mem_canonical edge member
  have inside : c ∈ (canonicalLabels name).flatten := by
    rw [canonicalLabels, labels, flatten_pieces, List.mem_filter]
    exact ⟨kept, by simp [(Url.unmarked_of_isEdge edge).2.2.2.1]⟩
  obtain ⟨label, listed, within⟩ := List.mem_flatten.1 inside
  have refused : (canonicalLabels name).mapM asciiLabel? = none := by
    refine Option.eq_none_iff_forall_ne_some.2 fun read all => ?_
    obtain ⟨b, -, made⟩ := exists_of_mapM all listed
    rw [asciiLabel?_of_edge edge within] at made
    cases made
  simp only [ascii?, refused, Option.map_none, ite_self]

end Domain

/-- A host that ends in a blank or control is none. -/
theorem Host.ofText_of_edge {c : Char} (edge : Url.isEdge c = true) {cs : List Char}
    (last : cs.getLast? = some c) : ∃ e, ofText cs = .error e := by
  have member : c ∈ cs := List.mem_of_getLast? last
  have unnamed : Domain.ofOctets? (Percent.decode cs) = none := by
    refine Option.bind_eq_none_iff.2 fun name decoded => ?_
    have kept := mem_of_decodeUtf8? decoded (Url.toNat_lt_of_isEdge edge)
      (Percent.mem_decode edge member)
    rw [Domain.ascii?_of_edge edge kept, Option.map_none]
  unfold ofText
  split
  · next rest =>
    refine ⟨.invalidIpv6, ?_⟩
    obtain ⟨-, -, -, -, opening, closing⟩ := Url.unmarked_of_isEdge edge
    have ends : rest.getLast? = some c := by
      cases rest with
      | nil => simp [opening.symm] at last
      | cons d rest => simpa using last
    unfold bracketed
    split
    · next same => simp [ends, closing] at same
    · rfl
  · rw [unnamed]
    exact ⟨_, rfl⟩

namespace Url

/-- Host and port, with the colon between them if there is one, make up the text. -/
theorem hostAndPort_joined (inside : Bool) (cs : List Char) :
    cs = (hostAndPort inside cs).1 ++
      ((hostAndPort inside cs).2.map fun port => ':' :: port).getD [] := by
  induction cs generalizing inside with
  | nil => rfl
  | cons c rest ih =>
    unfold hostAndPort
    split
    · next cut =>
      simp only [Bool.and_eq_true, beq_iff_eq] at cut
      simp [cut.1]
    · exact congrArg (c :: ·) (ih _)

private theorem portOf_of_edge (scheme : String) {c : Char} (edge : isEdge c = true)
    {cs : List Char} (member : c ∈ cs) : ∃ e, portOf scheme cs = .error e := by
  have present : cs.isEmpty = false := List.isEmpty_eq_false_iff.2 (List.ne_nil_of_mem member)
  have letters : cs.all Char.isDigit = false :=
    List.all_eq_false.2 ⟨c, member, by simp [(plain_of_isEdge edge).2.1]⟩
  simp only [portOf, present, letters, Bool.false_eq_true, if_false]
  exact ⟨_, rfl⟩

private theorem getLast?_splitLast {p : Char → Bool} {c : Char} (kept : p c = false)
    {cs : List Char} (last : cs.getLast? = some c) : (splitLast p cs).2.getLast? = some c := by
  obtain ⟨front, rfl⟩ := List.getLast?_eq_some_iff.1 last
  unfold splitLast
  dsimp only
  split
  · rw [List.reverse_concat, List.takeWhile_cons_of_pos (by simp [kept]), List.reverse_cons,
      List.getLast?_concat]
  · exact last

/-- An authority that ends in a blank or control is none. -/
theorem authority_of_edge (scheme : String) {c : Char} (edge : isEdge c = true) {cs : List Char}
    (last : cs.getLast? = some c) : ∃ e, authority scheme .special cs = .error e := by
  obtain ⟨-, colon, sign, -⟩ := unmarked_of_isEdge edge
  have ends := getLast?_splitLast (p := (· == '@')) (beq_eq_false_iff_ne.2 sign) last
  unfold authority
  generalize splitLast (· == '@') cs = parts at ends
  obtain ⟨credentials, rest⟩ := parts
  have joined := hostAndPort_joined false rest
  dsimp only at ends ⊢
  generalize hostAndPort false rest = divided at joined
  obtain ⟨host, port⟩ := divided
  dsimp only
  split
  · exact ⟨_, rfl⟩
  · cases port with
    | none =>
      obtain rfl : rest = host := by simpa using joined
      obtain ⟨e, refused⟩ := Host.ofText_of_edge edge ends
      exact ⟨e, by simp [refused, bind, Except.bind]⟩
    | some port =>
      have member : c ∈ port := by
        cases port with
        | nil => simp [joined, colon.symm] at ends
        | cons d port =>
          have tail : (d :: port).getLast? = some c := by simpa [joined] using ends
          exact List.mem_of_getLast? tail
      obtain ⟨e, refused⟩ := portOf_of_edge scheme edge member
      rcases Host.ofText host with e' | named
      · exact ⟨e', rfl⟩
      · exact ⟨e, by simp [refused, bind, Except.bind]⟩

end Url

end TokenGate
