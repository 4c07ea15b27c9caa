import TokenGate.Text.Blank
import TokenGate.Text.Symbol

/-! # ASCII texts

What holds of the 128 ASCII characters one by one holds of all of them. An ASCII character is one
octet, so octets that are those of ASCII characters read back as the text they spell. -/

namespace TokenGate.Text

theorem forall_ascii {p : Char → Prop} (all : ∀ n < 128, p (Char.ofNat n)) {c : Char}
    (ascii : c.toNat < 128) : p c := by
  have holds := all c.toNat ascii
  rwa [Char.ofNat_toNat] at holds

theorem toList_lowerAscii (s : String) : (lowerAscii s).toList = s.toList.map Char.toLower := by
  rw [lowerAscii, String.toList_map]

theorem encodeUtf8_singleton {c : Char} (ascii : c.toNat < 128) :
    encodeUtf8 (String.singleton c) = [c.toNat.toUInt8] :=
  forall_ascii (p := fun c => encodeUtf8 (String.singleton c) = [c.toNat.toUInt8])
    (by decide +kernel) ascii

theorem symbols_cons {c : Char} (ascii : c.toNat < 128) (rest : List UInt8) :
    symbols (c.toNat.toUInt8 :: rest) = .char c :: symbols rest := by
  have octet : c.toNat.toUInt8 < 0x80 ∧ Char.ofUInt8 c.toNat.toUInt8 = c :=
    forall_ascii (p := fun c => c.toNat.toUInt8 < 0x80 ∧ Char.ofUInt8 c.toNat.toUInt8 = c)
      (by decide +kernel) ascii
  rw [symbols.eq_def]
  simp only [octet.1, if_true, octet.2]

/-- The octets of ASCII characters, one behind the other, read back. -/
theorem decodeUtf8?_ascii {cs : List Char} (ascii : ∀ c ∈ cs, c.toNat < 128) :
    decodeUtf8? (cs.map fun c => c.toNat.toUInt8) = some (String.ofList cs) := by
  have read : (symbols (cs.map fun c => c.toNat.toUInt8)).mapM Symbol.char? = some cs := by
    induction cs with
    | nil => simp [symbols]
    | cons c rest ih =>
      have tail := ih fun d member => ascii d (List.mem_cons_of_mem _ member)
      rw [List.map_cons, symbols_cons (ascii c (List.mem_cons_self ..)), List.mapM_cons, tail]
      rfl
  rw [decodeUtf8?, text?, read, Option.map_some]

end TokenGate.Text
