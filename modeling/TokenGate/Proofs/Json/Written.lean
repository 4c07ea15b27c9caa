import TokenGate.Json.Reader
import TokenGate.Proofs.Json.Kept
import TokenGate.Proofs.Json.Numeral

/-! # What is written reads back

The text written for a value is the text of a tree, whatever characters its texts hold: the
characters of a value are cut into tokens wherever they stand between tokens, and the tokens build
the tree wherever a value is due. The tree keeps every member of a record, and every number as what
its digits are read as. So what reading makes of a written value is what it makes of the tree. -/

namespace TokenGate.Json

open TokenGate.Text (Symbol)

/-! ## Characters -/

/-- Characters between tokens are cut into tokens, and what stands behind them is cut as usual. -/
def Cuts (cs : List Char) (ts : List Token) : Prop :=
  ∀ found rest, tokensFrom? .between found (cs.map Symbol.char ++ rest) =
    tokensFrom? .between (ts.reverse ++ found) rest

/-- A word ends before these symbols. -/
def Ends (rest : List Symbol) : Prop :=
  ∀ s, rest.head? = some s → ∃ c, s = .char c ∧ isWordChar c = false

/-- The same for characters that a word may end. -/
def CutsBefore (cs : List Char) (ts : List Token) : Prop :=
  ∀ found rest, Ends rest → tokensFrom? .between found (cs.map Symbol.char ++ rest) =
    tokensFrom? .between (ts.reverse ++ found) rest

theorem Cuts.before {cs : List Char} {ts : List Token} (cuts : Cuts cs ts) : CutsBefore cs ts :=
  fun found rest _ => cuts found rest

/-- Tokens are cut one run behind the other. -/
theorem Cuts.append {cs cs' : List Char} {ts ts' : List Token} (first : Cuts cs ts)
    (second : CutsBefore cs' ts') : CutsBefore (cs ++ cs') (ts ++ ts') := by
  intro found rest ends
  rw [List.map_append, List.append_assoc, first, second _ _ ends, List.reverse_append,
    List.append_assoc]

/-- What ends in a word may stand before a character that is of no word. -/
theorem CutsBefore.append {c : Char} {cs cs' : List Char} {ts ts' : List Token}
    (first : CutsBefore cs ts) (other : isWordChar c = false)
    (second : CutsBefore (c :: cs') ts') : CutsBefore (cs ++ c :: cs') (ts ++ ts') := by
  intro found rest ends
  have stops : Ends ((c :: cs').map Symbol.char ++ rest) := by
    intro s head
    exact ⟨c, (Option.some.inj head).symm, other⟩
  rw [List.map_append, List.append_assoc, first _ _ stops, second _ _ ends, List.reverse_append,
    List.append_assoc]

/-- A character that is a token by itself is cut as one. -/
theorem cuts_of_begin? {c : Char} {t : Token} (begins : begin? c = some ([t], .between)) :
    Cuts [c] [t] := by
  intro found rest
  simp [tokensFrom?, step?, begins]

/-! ## Words -/

private theorem begin?_of_isWordChar {c : Char} (letter : isWordChar c = true) :
    begin? c = some ([], .word [c]) := by
  have others : ([' ', '\n', '\t', '\r', '"', '[', ']', '\x7b', '\x7d', ',', ':'].all
      fun d => !isWordChar d) = true := by decide
  have apart : ∀ d ∈ [' ', '\n', '\t', '\r', '"', '[', ']', '\x7b', '\x7d', ',', ':'], c ≠ d := by
    rintro d member rfl
    have other := List.all_eq_true.1 others c member
    simp [letter] at other
  simp only [List.mem_cons, List.not_mem_nil, or_false, forall_eq_or_imp, forall_eq] at apart
  simp [begin?, isSpace, punctuation?, apart, letter]

private theorem tokensFrom?_word {cs : List Char} (letters : ∀ c ∈ cs, isWordChar c = true)
    (begun : List Char) (found : List Token) (rest : List Symbol) :
    tokensFrom? (.word begun) found (cs.map Symbol.char ++ rest) =
      tokensFrom? (.word (cs.reverse ++ begun)) found rest := by
  induction cs generalizing begun with
  | nil => rfl
  | cons c cs ih =>
    simp only [List.forall_mem_cons] at letters
    simp [tokensFrom?, step?, letters.1, ih letters.2]

private theorem tokensFrom?_of_ends {begun : List Char} {t : Token}
    (word : word? begun.reverse = some t) (found : List Token) {rest : List Symbol}
    (ends : Ends rest) :
    tokensFrom? (.word begun) found rest = tokensFrom? .between (t :: found) rest := by
  cases rest with
  | nil => simp [tokensFrom?, finish?, word]
  | cons s rest =>
    obtain ⟨c, rfl, other⟩ := ends s rfl
    cases begins : begin? c <;> simp [tokensFrom?, step?, other, word, begins]

/-- A word is one token where something else follows. -/
theorem cutsBefore_word {cs : List Char} {t : Token} (something : cs ≠ [])
    (letters : ∀ c ∈ cs, isWordChar c = true) (word : word? cs = some t) : CutsBefore cs [t] := by
  intro found rest ends
  cases cs with
  | nil => exact absurd rfl something
  | cons c cs =>
    have inside := tokensFrom?_word (List.forall_mem_cons.1 letters).2 [c] found rest
    have spelt : (cs.reverse ++ [c]).reverse = c :: cs := by simp
    have begins := begin?_of_isWordChar (List.forall_mem_cons.1 letters).1
    rw [List.map_cons, List.cons_append, tokensFrom?, step?, begins]
    dsimp only
    rw [List.reverse_nil, List.nil_append, inside,
      tokensFrom?_of_ends (by rw [spelt]; exact word) found ends]
    rfl

private theorem cutsBefore_number (n : Number) : CutsBefore n.write [.number n.reread?] := by
  obtain ⟨l, sound, written⟩ := exists_literal n
  obtain ⟨c, rest, spelt, -⟩ := head_spell sound
  rw [reread?_of_spell sound written, written]
  exact cutsBefore_word (by simp [spelt]) (isWordChar_of_mem_spell sound) (word?_spell sound)

/-! ## Texts -/

/-- Inside a text, characters are one piece, which spells a character. -/
structure Piece.Spells (p : Piece) (cs : List Char) (c : Char) : Prop where
  inside : ∀ pieces found rest,
    tokensFrom? (.text pieces) found (cs.map Symbol.char ++ rest) =
      tokensFrom? (.text (p :: pieces)) found rest
  character : ∀ more, characters? (p :: more) = (characters? more).map (c :: ·)

private theorem hexDigit?_digitChar {n : Nat} (small : n < 16) :
    Text.hexDigit? n.digitChar = some n := by
  have all : ∀ m : Fin 16, Text.hexDigit? (Nat.digitChar m) = some m.val := by decide
  exact all ⟨n, small⟩

private theorem spells_code {c : Char} (control : c.toNat < 0x20) :
    (Piece.code c.toNat).Spells
      ['\\', 'u', '0', '0', (c.toNat / 16).digitChar, (c.toNat % 16).digitChar] c := by
  have zero : Text.hexDigit? '0' = some 0 := by decide
  have upper := hexDigit?_digitChar (n := c.toNat / 16) (by omega)
  have lower := hexDigit?_digitChar (n := c.toNat % 16) (by omega)
  have whole : c.toNat / 16 * 16 + c.toNat % 16 = c.toNat := by omega
  refine ⟨fun pieces found rest => ?_, fun more => ?_⟩
  · simp [tokensFrom?, step?, zero, upper, lower, whole]
  · have high : isHighSurrogate c.toNat = false := by simp [isHighSurrogate]; omega
    have low : isLowSurrogate c.toNat = false := by simp [isLowSurrogate]; omega
    conv_lhs => unfold characters?
    simp only [high, low, Bool.false_eq_true, ↓reduceIte, Char.ofNat_toNat]

private theorem spells_plain {c : Char} (quote : c ≠ '"') (backslash : c ≠ '\\')
    (visible : ¬ c.toNat < 0x20) : (Piece.plain c).Spells [c] c := by
  refine ⟨fun pieces found rest => ?_, fun more => rfl⟩
  simp [tokensFrom?, step?, quote, backslash, visible]

private theorem spells_short {escape c : Char} (short : shortEscape? escape = some c)
    (other : escape ≠ 'u') : (Piece.plain c).Spells ['\\', escape] c := by
  refine ⟨fun pieces found rest => ?_, fun more => rfl⟩
  simp [tokensFrom?, step?, short, other]

private theorem exists_spells (c : Char) : ∃ p : Piece, p.Spells (escapedChar c) c := by
  unfold escapedChar
  split_ifs with quote backslash backspace feed newline carriage tab control
  all_goals simp only [beq_iff_eq] at *
  · exact ⟨.plain c, spells_short (by rw [quote]; decide) (by decide)⟩
  · exact ⟨.plain c, spells_short (by rw [backslash]; decide) (by decide)⟩
  · exact ⟨.plain c, spells_short (by rw [backspace]; decide) (by decide)⟩
  · exact ⟨.plain c, spells_short (by rw [feed]; decide) (by decide)⟩
  · exact ⟨.plain c, spells_short (by rw [newline]; decide) (by decide)⟩
  · exact ⟨.plain c, spells_short (by rw [carriage]; decide) (by decide)⟩
  · exact ⟨.plain c, spells_short (by rw [tab]; decide) (by decide)⟩
  · exact ⟨.code c.toNat, spells_code control⟩
  · exact ⟨.plain c, spells_plain quote backslash control⟩

private theorem exists_pieces (cs : List Char) : ∃ ps, characters? ps = some cs ∧
    ∀ pieces found rest,
      tokensFrom? (.text pieces) found ((cs.flatMap escapedChar).map Symbol.char ++ rest) =
        tokensFrom? (.text (ps.reverse ++ pieces)) found rest := by
  induction cs with
  | nil => exact ⟨[], rfl, fun pieces found rest => rfl⟩
  | cons c cs ih =>
    obtain ⟨p, spells⟩ := exists_spells c
    obtain ⟨ps, spelt, inside⟩ := ih
    refine ⟨p :: ps, ?_, fun pieces found rest => ?_⟩
    · rw [spells.character, spelt, Option.map_some]
    · rw [List.flatMap_cons, List.map_append, List.append_assoc, spells.inside, inside]
      simp

/-- A written text is one token with the text as its content. -/
theorem cuts_writeText (s : String) : Cuts (writeText s) [.text (some s)] := by
  intro found rest
  obtain ⟨ps, spelt, inside⟩ := exists_pieces s.toList
  have opened : begin? '"' = some ([], .text []) := by decide
  simp [writeText, tokensFrom?, step?, opened, inside, textToken, spelt]

/-! ## Trees -/

mutual

/-- The tree of a written value. -/
def tree : Json → Raw
  | .null => .null
  | .bool b => .bool b
  | .number n => .number n.reread?
  | .text s => .text (some s)
  | .list items => .list (itemTrees items)
  | .record members => .record (memberTrees members)

def itemTrees : List Json → List Raw
  | [] => []
  | j :: rest => tree j :: itemTrees rest

def memberTrees : List (String × Json) → List (Option String × Raw)
  | [] => []
  | (name, j) :: rest => (some name, tree j) :: memberTrees rest

end

theorem itemTrees_cons (j : Json) (rest : List Json) :
    itemTrees (j :: rest) = tree j :: itemTrees rest := by
  rw [itemTrees]

theorem memberTrees_cons (m : String × Json) (rest : List (String × Json)) :
    memberTrees (m :: rest) = (some m.1, tree m.2) :: memberTrees rest := by
  rw [memberTrees]

private theorem itemTrees_eq_map (items : List Json) : itemTrees items = items.map tree := by
  induction items with
  | nil => rw [itemTrees, List.map_nil]
  | cons j rest ih => rw [itemTrees_cons, ih, List.map_cons]

theorem memberTrees_eq_map (members : List (String × Json)) :
    memberTrees members = members.map fun m => (some m.1, tree m.2) := by
  induction members with
  | nil => rw [memberTrees, List.map_nil]
  | cons m rest ih => rw [memberTrees_cons, ih, List.map_cons]

/-! ## Tokens -/

/-- A value may begin here. -/
def ValueDue (phase : Phase) : Prop := phase = .value ∨ phase = .firstItem

/-- Tokens build a tree wherever a value is due, and what stands behind them goes on from there. -/
def Builds (ts : List Token) (v : Raw) : Prop :=
  ∀ phase outer rest, ValueDue phase →
    run? phase outer (ts ++ rest) =
      (place? v outer).bind fun next => run? next.1 next.2 rest

theorem run?_cons (phase : Phase) (outer : List Frame) (t : Token) (rest : List Token) :
    run? phase outer (t :: rest) =
      (advance? phase outer t).bind fun next => run? next.1 next.2 rest := by
  rw [run?]
  cases advance? phase outer t <;> rfl

/-- Where a value is due, all phases go on alike. -/
theorem run?_of_valueDue {phase : Phase} (due : ValueDue phase) (outer : List Frame) (t : Token)
    (begins : t ≠ .endList) (rest : List Token) :
    run? phase outer (t :: rest) =
      (beginValue? outer t).bind fun next => run? next.1 next.2 rest := by
  rw [run?_cons]
  rcases due with rfl | rfl
  · rfl
  · have same : advance? .firstItem outer t = beginValue? outer t := by
      unfold advance?
      split <;> simp_all
    rw [same]

/-- A token that is a value by itself. -/
theorem builds_of_place {t : Token} {v : Raw} (begins : t ≠ .endList)
    (placed : ∀ outer, beginValue? outer t = place? v outer) : Builds [t] v := by
  intro phase outer rest due
  rw [List.singleton_append, run?_of_valueDue due outer t begins, placed]

/-- The characters of a value are cut into tokens that build its tree. -/
def Written (j : Json) : Prop := ∃ ts, CutsBefore (chars j) ts ∧ Builds ts (tree j)

private theorem written_of_token {j : Json} {t : Token} (cuts : CutsBefore (chars j) [t])
    (begins : t ≠ .endList) (placed : ∀ outer, beginValue? outer t = place? (tree j) outer) :
    Written j := ⟨[t], cuts, builds_of_place begins placed⟩

/-! ## Lists -/

/-- The items of a list in a row, up to its end. -/
theorem exists_items {items : List Json} (nonempty : items ≠ []) (each : ∀ j ∈ items, Written j) :
    ∃ ts, CutsBefore (itemChars items) ts ∧
      ∀ phase found outer rest, ValueDue phase →
        run? phase (.list found :: outer) (ts ++ .endList :: rest) =
          (place? (.list (found.reverse ++ itemTrees items)) outer).bind
            fun next => run? next.1 next.2 rest := by
  induction items with
  | nil => exact absurd rfl nonempty
  | cons j items ih =>
    obtain ⟨ts, cuts, builds⟩ := each j (List.mem_cons_self ..)
    cases items with
    | nil =>
      refine ⟨ts, ?_, fun phase found outer rest due => ?_⟩
      · rw [itemChars]
        exact cuts
      · rw [builds phase _ _ due, place?, Option.bind_some, run?_cons, advance?,
          List.reverse_cons, itemTrees, itemTrees]
    | cons next items =>
      obtain ⟨ts', cuts', goesOn⟩ := ih (List.cons_ne_nil _ _) fun k member =>
        each k (List.mem_cons_of_mem _ member)
      have comma : Cuts [','] [.comma] := cuts_of_begin? (by decide)
      refine ⟨ts ++ .comma :: ts', ?_, fun phase found outer rest due => ?_⟩
      · rw [itemChars]
        · exact cuts.append (by decide) (comma.append cuts')
        · exact nofun
      · rw [List.append_assoc, List.cons_append, builds phase _ _ due, place?, Option.bind_some,
          run?_cons, advance?, Option.bind_some, goesOn _ _ _ _ (Or.inl rfl), List.reverse_cons,
          List.append_assoc, List.singleton_append, itemTrees_cons j]

private theorem written_list {items : List Json} (each : ∀ j ∈ items, Written j) :
    Written (.list items) := by
  have opened : Cuts ['['] [.beginList] := cuts_of_begin? (by decide)
  have closed : Cuts [']'] [.endList] := cuts_of_begin? (by decide)
  by_cases empty : items = []
  · subst empty
    refine ⟨[.beginList] ++ [.endList], ?_, ?_⟩
    · rw [chars, itemChars]
      exact opened.append closed.before
    · intro phase outer rest due
      rw [List.append_assoc, List.singleton_append, run?_of_valueDue due outer .beginList nofun,
        beginValue?, Option.bind_some, List.singleton_append, run?_cons, advance?,
        List.reverse_nil, tree, itemTrees]
  · obtain ⟨ts, cuts, goesOn⟩ := exists_items empty each
    refine ⟨[.beginList] ++ (ts ++ [.endList]), ?_, ?_⟩
    · rw [chars]
      exact opened.append (cuts.append (by decide) closed.before)
    · intro phase outer rest due
      rw [List.append_assoc, List.append_assoc, List.singleton_append,
        run?_of_valueDue due outer .beginList nofun, beginValue?, Option.bind_some,
        List.singleton_append, goesOn _ _ _ _ (Or.inr rfl), List.reverse_nil, List.nil_append, tree]

/-! ## Records -/

/-- A name may begin here. -/
def NameDue (phase : Phase) : Prop := phase = .firstName ∨ phase = .name

private theorem run?_of_nameDue {phase : Phase} (due : NameDue phase)
    (found : List (Option String × Raw)) (outer : List Frame) (name : Option String)
    (rest : List Token) :
    run? phase (.record found :: outer) (.text name :: .colon :: rest) =
      run? .value (.member found name :: outer) rest := by
  rcases due with rfl | rfl <;> simp only [run?_cons, advance?, Option.bind_some]

/-- The members of a record in a row, up to its end. -/
theorem exists_members {members : List (String × Json)} (nonempty : members ≠ [])
    (each : ∀ m ∈ members, Written m.2) :
    ∃ ts, CutsBefore (memberChars members) ts ∧
      ∀ phase found outer rest, NameDue phase →
        run? phase (.record found :: outer) (ts ++ .endRecord :: rest) =
          (place? (.record (found.reverse ++ memberTrees members)) outer).bind
            fun next => run? next.1 next.2 rest := by
  induction members with
  | nil => exact absurd rfl nonempty
  | cons m members ih =>
    obtain ⟨name, j⟩ := m
    obtain ⟨ts, cuts, builds⟩ := each (name, j) (List.mem_cons_self ..)
    have colon : Cuts [':'] [.colon] := cuts_of_begin? (by decide)
    have named : CutsBefore (writeText name ++ ':' :: chars j)
        (.text (some name) :: .colon :: ts) :=
      (cuts_writeText name).append (colon.append cuts)
    cases members with
    | nil =>
      refine ⟨.text (some name) :: .colon :: ts, ?_, fun phase found outer rest due => ?_⟩
      · rw [memberChars]
        exact named
      · rw [List.cons_append, List.cons_append, run?_of_nameDue due, builds _ _ _ (Or.inl rfl),
          place?, Option.bind_some, run?_cons, advance?, List.reverse_cons, memberTrees,
          memberTrees]
    | cons next members =>
      obtain ⟨ts', cuts', goesOn⟩ := ih (List.cons_ne_nil _ _) fun k member =>
        each k (List.mem_cons_of_mem _ member)
      have comma : Cuts [','] [.comma] := cuts_of_begin? (by decide)
      refine ⟨(.text (some name) :: .colon :: ts) ++ .comma :: ts', ?_,
        fun phase found outer rest due => ?_⟩
      · rw [memberChars]
        · exact named.append (by decide) (comma.append cuts')
        · exact nofun
      · rw [List.append_assoc, List.cons_append, List.cons_append, List.cons_append,
          run?_of_nameDue due, builds _ _ _ (Or.inl rfl), place?, Option.bind_some, run?_cons,
          advance?, Option.bind_some, goesOn _ _ _ _ (Or.inr rfl), List.reverse_cons,
          List.append_assoc, List.singleton_append, memberTrees_cons (name, j)]

private theorem written_record {members : List (String × Json)}
    (each : ∀ m ∈ members, Written m.2) : Written (.record members) := by
  have opened : Cuts ['\x7b'] [.beginRecord] := cuts_of_begin? (by decide)
  have closed : Cuts ['\x7d'] [.endRecord] := cuts_of_begin? (by decide)
  by_cases empty : members = []
  · subst empty
    refine ⟨[.beginRecord] ++ [.endRecord], ?_, ?_⟩
    · rw [chars, memberChars]
      exact opened.append closed.before
    · intro phase outer rest due
      rw [List.append_assoc, List.singleton_append, run?_of_valueDue due outer .beginRecord nofun,
        beginValue?, Option.bind_some, List.singleton_append, run?_cons, advance?,
        List.reverse_nil, tree, memberTrees]
  · obtain ⟨ts, cuts, goesOn⟩ := exists_members empty each
    refine ⟨[.beginRecord] ++ (ts ++ [.endRecord]), ?_, ?_⟩
    · rw [chars]
      exact opened.append (cuts.append (by decide) closed.before)
    · intro phase outer rest due
      rw [List.append_assoc, List.append_assoc, List.singleton_append,
        run?_of_valueDue due outer .beginRecord nofun, beginValue?, Option.bind_some,
        List.singleton_append, goesOn _ _ _ _ (Or.inl rfl), List.reverse_nil, List.nil_append, tree]

/-! ## Values -/

mutual

/-- Every value is written as tokens of its tree: by recursion on the value. -/
theorem written : ∀ j : Json, Written j
  | .null => by
    refine written_of_token (t := .null) ?_ nofun fun outer => by rw [tree, beginValue?]
    rw [chars]
    exact cutsBefore_word (List.cons_ne_nil _ _) (List.all_eq_true.1 (by decide)) (by decide)
  | .bool b => by
    refine written_of_token (t := .bool b) ?_ nofun fun outer => by rw [tree, beginValue?]
    cases b with
    | true =>
      rw [chars]
      exact cutsBefore_word (List.cons_ne_nil _ _) (List.all_eq_true.1 (by decide)) (by decide)
    | false =>
      rw [chars]
      exact cutsBefore_word (List.cons_ne_nil _ _) (List.all_eq_true.1 (by decide)) (by decide)
  | .number n => by
    refine written_of_token (t := .number n.reread?) ?_ nofun fun outer => by rw [tree, beginValue?]
    rw [chars]
    exact cutsBefore_number n
  | .text s => by
    refine written_of_token (t := .text (some s)) ?_ nofun fun outer => by rw [tree, beginValue?]
    rw [chars]
    exact (cuts_writeText s).before
  | .list items => written_list (written_items items)
  | .record members => written_record (written_members members)

theorem written_items : ∀ items : List Json, ∀ j ∈ items, Written j
  | [] => nofun
  | j :: rest => List.forall_mem_cons.2 ⟨written j, written_items rest⟩

theorem written_members : ∀ members : List (String × Json), ∀ m ∈ members, Written m.2
  | [] => nofun
  | (_, j) :: rest => List.forall_mem_cons.2 ⟨written j, written_members rest⟩

end

/-- The text of a value is read as its tree. -/
theorem raw?_write (j : Json) : raw? (Text.ofText (write j)) = some (tree j) := by
  obtain ⟨ts, cuts, builds⟩ := written j
  have cut : tokens? (Text.ofText (write j)) = some ts := by
    have whole := cuts [] [] nofun
    rw [List.append_nil, List.append_nil] at whole
    rw [tokens?, Text.ofText, write, String.toList_ofList, whole, tokensFrom?, finish?,
      Option.map_some, List.reverse_reverse, List.append_nil]
  have built : run? .value [] ts = some (tree j) := by
    have whole := builds .value [] [] (Or.inl rfl)
    rw [List.append_nil] at whole
    rw [whole, place?, Option.bind_some, run?]
  rw [raw?, cut, Option.bind_some, built]

/-- The text of a value is read as what is kept of its tree. -/
theorem ofText?_write_eq (j : Json) : ofText? (write j) = (tree j).value? depthLimit := by
  rw [ofText?, ofSymbols?, raw?_write, Option.bind_some]

/-- The members of the record that a text spells, in order and with repeated names. -/
def members? (document : String) : Option (List (String × Raw)) :=
  (raw? (Text.ofText document)).bind Raw.members?

/-- The members of a written record are read in order. -/
theorem members?_tree_record (members : List (String × Json)) :
    (tree (.record members)).members? = some (members.map fun m => (m.1, tree m.2)) := by
  rw [tree, memberTrees_eq_map, Raw.members?, List.mapM_map]
  induction members with
  | nil => rfl
  | cons m members ih => simp [ih]

/-- The text of a record has its members in their order. -/
theorem members?_write (members : List (String × Json)) :
    members? (write (.record members)) = some (members.map fun m => (m.1, tree m.2)) := by
  rw [members?, raw?_write, Option.bind_some, members?_tree_record]

/-! ## What comes back -/

/-- A value is what reading keeps of its tree, at most `limit` containers deep. -/
def ReadsBack (limit : Nat) (j : Json) : Prop := (tree j).value? limit = some j

theorem readsBack_text (limit : Nat) (s : String) : ReadsBack limit (.text s) := by
  rw [ReadsBack, tree, Raw.value?, Option.map_some]

theorem readsBack_natural (limit : Nat) (n : UInt64) : ReadsBack limit (.number (.natural n)) := by
  rw [ReadsBack, tree, Raw.value?, reread?_natural, Option.map_some]

theorem mapM_eq_self_iff {α : Type} {f : α → Option α} {items : List α} :
    items.mapM f = some items ↔ ∀ a ∈ items, f a = some a := by
  induction items with
  | nil => simp
  | cons a items ih => simp [Option.bind_eq_some_iff, ← ih]

/-- A list is read back if its items are. -/
theorem readsBack_list_iff {limit : Nat} {items : List Json} :
    ReadsBack (limit + 1) (.list items) ↔ ∀ j ∈ items, ReadsBack limit j := by
  rw [ReadsBack, tree, Raw.value?, itemTrees_eq_map, List.mapM_map, Option.map_eq_some_iff]
  simp only [Json.list.injEq, exists_eq_right, mapM_eq_self_iff, Function.comp_apply, ReadsBack]

/-- Members as reading keeps them, before repeated names are dropped. -/
def reread? (limit : Nat) (members : List (String × Json)) : Option (List (String × Json)) :=
  members.mapM fun m => ((tree m.2).value? limit).map (m.1, ·)

theorem value?_tree_record (limit : Nat) (members : List (String × Json)) :
    (tree (.record members)).value? (limit + 1) =
      (reread? limit members).map fun kept => .record (lastValues kept) := by
  rw [tree, Raw.value?, memberTrees_eq_map, reread?, List.mapM_map]
  congr 2
  funext m
  rw [Function.comp_apply]
  cases (tree m.2).value? limit <;> rfl

section

variable {limit : Nat} {members kept : List (String × Json)}

theorem reread?_append (members more : List (String × Json)) :
    reread? limit (members ++ more) = do
      let kept ← reread? limit members
      let kept' ← reread? limit more
      return kept ++ kept' := by
  rw [reread?, List.mapM_append]
  rfl

theorem reread?_cons_eq_some_iff {m : String × Json} :
    reread? limit (m :: members) = some kept ↔
      ∃ j rest, (tree m.2).value? limit = some j ∧ reread? limit members = some rest ∧
        kept = (m.1, j) :: rest := by
  simp [reread?, Option.bind_eq_some_iff, Option.map_eq_some_iff, @eq_comm _ kept]

/-- Reading members keeps their names. -/
theorem map_fst_of_reread? (read : reread? limit members = some kept) :
    kept.map Prod.fst = members.map Prod.fst := by
  induction members generalizing kept with
  | nil =>
    obtain rfl := Option.some.inj read
    rfl
  | cons m members ih =>
    obtain ⟨j, rest, -, behind, rfl⟩ := reread?_cons_eq_some_iff.1 read
    rw [List.map_cons, List.map_cons, ih behind]

theorem reread?_eq_self_iff :
    reread? limit members = some members ↔ ∀ m ∈ members, ReadsBack limit m.2 := by
  rw [reread?, mapM_eq_self_iff]
  simp [Prod.ext_iff, Option.map_eq_some_iff, ReadsBack]

/-- A record is read back just if its names are distinct and its members are read back. -/
theorem readsBack_record_iff :
    ReadsBack (limit + 1) (.record members) ↔
      (members.map Prod.fst).Nodup ∧ ∀ m ∈ members, ReadsBack limit m.2 := by
  rw [ReadsBack, value?_tree_record, Option.map_eq_some_iff, ← reread?_eq_self_iff]
  constructor
  · rintro ⟨kept, read, same⟩
    have distinct : (members.map Prod.fst).Nodup := Json.record.inj same ▸ nodup_lastValues kept
    rw [← map_fst_of_reread? read] at distinct
    rw [lastValues_eq_self distinct] at same
    obtain rfl := Json.record.inj same
    exact ⟨distinct, read⟩
  · rintro ⟨distinct, read⟩
    exact ⟨members, read, by rw [lastValues_eq_self distinct]⟩

end

/-- A value that is read back from its tree is read back from its text. -/
theorem ofText?_write {j : Json} (reads : ReadsBack depthLimit j) : ofText? (write j) = some j := by
  rw [ofText?_write_eq]
  exact reads

/-! ## Exact numbers -/

namespace Number

/-- A number that is read back as itself. -/
def Exact (n : Number) : Prop := n.reread? = some n

/-- An integer that is kept as one. -/
def IsInteger : Number → Prop
  | natural _ | negative _ => True
  | real _ _ => False

/-- Integers in their range are read back as themselves. -/
theorem exact_of_isInteger {n : Number} (integer : n.IsInteger) (range : n.InRange) : n.Exact := by
  cases n with
  | natural n => exact reread?_natural n
  | negative n => exact reread?_negative range.1 range.2
  | real isNegative x => exact integer.elim

end Number

private theorem readsBack_number_iff {limit : Nat} {n : Number} :
    ReadsBack limit (.number n) ↔ n.Exact := by
  rw [ReadsBack, tree, Raw.value?, Number.Exact, Option.map_eq_some_iff]
  simp only [Json.number.injEq, exists_eq_right]

/-- A value that was read once reads back exactly when its numbers do. -/
theorem readsBack_iff_of_value? : ∀ {limit : Nat} {r : Raw} {j : Json}, r.value? limit = some j →
    (ReadsBack limit j ↔ j.EachNumber Number.Exact)
  | limit, .null, j, read => by
    obtain rfl : Json.null = j := by simpa [Raw.value?] using read
    exact iff_of_true (by rw [ReadsBack, tree, Raw.value?]) .null
  | limit, .bool b, j, read => by
    obtain rfl : Json.bool b = j := by simpa [Raw.value?] using read
    exact iff_of_true (by rw [ReadsBack, tree, Raw.value?]) (.bool b)
  | limit, .number content, j, read => by
    rw [Raw.value?, Option.map_eq_some_iff] at read
    obtain ⟨n, -, rfl⟩ := read
    rw [readsBack_number_iff, eachNumber_number_iff]
  | limit, .text content, j, read => by
    rw [Raw.value?, Option.map_eq_some_iff] at read
    obtain ⟨s, -, rfl⟩ := read
    exact iff_of_true (readsBack_text limit s) (.text s)
  | 0, .list items, j, read => by simp [Raw.value?] at read
  | 0, .record members, j, read => by simp [Raw.value?] at read
  | limit + 1, .list items, j, read => by
    rw [Raw.value?, Option.map_eq_some_iff] at read
    obtain ⟨kept, found, rfl⟩ := read
    have each : ∀ k ∈ kept, (ReadsBack limit k ↔ k.EachNumber Number.Exact) := by
      intro k member
      obtain ⟨r, -, value⟩ := exists_of_mem_mapM found k member
      exact readsBack_iff_of_value? value
    rw [readsBack_list_iff, eachNumber_list_iff, forall₂_congr each]
  | limit + 1, .record members, j, read => by
    obtain ⟨kept, rfl, found⟩ := exists_of_value?_record read
    have each : ∀ m ∈ lastValues kept, (ReadsBack limit m.2 ↔ m.2.EachNumber Number.Exact) := by
      intro m member
      obtain ⟨r, -, -, value⟩ := found m (mem_of_mem_lastValues member)
      exact readsBack_iff_of_value? value
    rw [readsBack_record_iff, eachNumber_record_iff, forall₂_congr each,
      and_iff_right (nodup_lastValues kept)]

end TokenGate.Json
