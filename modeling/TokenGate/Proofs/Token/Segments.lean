import TokenGate.Proofs.Text.Pieces
import TokenGate.Token.Validation

/-! # What a token text says

A token is three segments with points between them: the first two spell the header and the payload,
and the third spells a signature over them. Each of these is a relation between the text and what it
says, so one can speak of what a text says although another part of it says nothing. Reading a
token finds exactly what its text says. -/

namespace TokenGate

/-- A text is three segments with points between them, none empty or with a point of its own. -/
structure Segments (text header payload signature : String) : Prop where
  joined : text = header ++ "." ++ payload ++ "." ++ signature
  whole : '.' ∉ header.toList ∧ '.' ∉ payload.toList ∧ '.' ∉ signature.toList
  nonempty : header ≠ "" ∧ payload ≠ "" ∧ signature ≠ ""

/-- A segment is base64 of octets that a reader makes a value of. -/
def Spells {α : Type} (read? : List UInt8 → Option α) (segment : String) (value : α) : Prop :=
  ∃ octets, Base64.urlSafe.decodeText segment = .ok octets ∧ read? octets = some value

/-- The signature segment verifies under a key over the two segments before it. -/
def SigningKey.Signs (check : SignatureCheck) (key : SigningKey)
    (header payload signature : String) : Prop :=
  ∃ octets, Base64.urlSafe.decodeText signature = .ok octets ∧
    check key.material key.algorithm (Text.encodeUtf8 (header ++ "." ++ payload)) octets = true

/-- The segments of a text are the three parts between its two points. -/
theorem segments_iff {text header payload signature : String} :
    Segments text header payload signature ↔
      Text.splitAt '.' text = [header, payload, signature] ∧
        header ≠ "" ∧ payload ≠ "" ∧ signature ≠ "" := by
  have joined : text = header ++ "." ++ payload ++ "." ++ signature ↔
      text.toList = ['.'].intercalate ([header, payload, signature].map String.toList) := by
    rw [← String.toList_inj]
    simp [List.intercalate]
  rw [Text.splitAt_eq_iff, ← joined]
  constructor
  · rintro ⟨same, whole, nonempty⟩
    exact ⟨⟨by simp, same, by simpa using whole⟩, nonempty⟩
  · rintro ⟨⟨_, same, whole⟩, nonempty⟩
    exact ⟨same, by simpa using whole, nonempty⟩

/-- A text has its segments in one way only. -/
theorem Segments.unique {text h p s h' p' s' : String} (left : Segments text h p s)
    (right : Segments text h' p' s') : h = h' ∧ p = p' ∧ s = s' := by
  have same := (segments_iff.1 left).1.symm.trans (segments_iff.1 right).1
  simpa using same

theorem Segments.text_ne {text header payload signature : String}
    (segments : Segments text header payload signature) : text ≠ "" := by
  rintro rfl
  have characters := congrArg String.toList segments.joined
  simp at characters

/-- A segment spells one value. -/
theorem Spells.unique {α : Type} {read? : List UInt8 → Option α} {segment : String}
    {value value' : α} (left : Spells read? segment value) (right : Spells read? segment value') :
    value = value' := by
  obtain ⟨octets, decoded, read⟩ := left
  obtain ⟨octets', decoded', read'⟩ := right
  obtain rfl : octets = octets' := Except.ok.inj (decoded.symm.trans decoded')
  exact Option.some.inj (read.symm.trans read')

/-- The first segment of a text spells a header. -/
def SaysHeader (text : String) (h : TokenHeader) : Prop :=
  ∃ header payload signature, Segments text header payload signature ∧
    Spells TokenHeader.ofOctets? header h

/-- The second segment of a text spells a payload. -/
def SaysPayload (text : String) (p : Payload) : Prop :=
  ∃ header payload signature, Segments text header payload signature ∧
    Spells Payload.ofOctets? payload p

/-- The third segment of a text verifies under a key. -/
def SignedUnder (check : SignatureCheck) (text : String) (key : SigningKey) : Prop :=
  ∃ header payload signature, Segments text header payload signature ∧
    key.Signs check header payload signature

section

variable {text header payload signature : String}

/-- What is asked of some segments of a text is asked of its own. -/
theorem Segments.exists_iff (segments : Segments text header payload signature)
    (asked : String → String → String → Prop) :
    (∃ h p s, Segments text h p s ∧ asked h p s) ↔ asked header payload signature := by
  constructor
  · rintro ⟨h, p, s, other, holds⟩
    obtain ⟨rfl, rfl, rfl⟩ := segments.unique other
    exact holds
  · exact fun holds => ⟨header, payload, signature, segments, holds⟩

theorem Segments.saysHeader_iff (segments : Segments text header payload signature)
    (h : TokenHeader) : SaysHeader text h ↔ Spells TokenHeader.ofOctets? header h :=
  segments.exists_iff fun header _ _ => Spells TokenHeader.ofOctets? header h

theorem Segments.saysPayload_iff (segments : Segments text header payload signature)
    (p : Payload) : SaysPayload text p ↔ Spells Payload.ofOctets? payload p :=
  segments.exists_iff fun _ payload _ => Spells Payload.ofOctets? payload p

theorem Segments.signedUnder_iff (segments : Segments text header payload signature)
    (check : SignatureCheck) (key : SigningKey) :
    SignedUnder check text key ↔ key.Signs check header payload signature :=
  segments.exists_iff (key.Signs check)

/-- A text says one header. -/
theorem SaysHeader.unique {h h' : TokenHeader} (left : SaysHeader text h)
    (right : SaysHeader text h') : h = h' := by
  obtain ⟨header, payload, signature, segments, spelt⟩ := left
  exact spelt.unique ((segments.saysHeader_iff h').1 right)

end

/-- The text with these segments says what was read of it, an expiry included. -/
structure ReadToken.Of (t : ReadToken) (text header payload signature : String) : Prop where
  segments : Segments text header payload signature
  headerSpelt : Spells TokenHeader.ofOctets? header t.header
  payloadSpelt : Spells Payload.ofOctets? payload t.payload
  expires : t.payload.exp ≠ none
  signedText : t.signed = header ++ "." ++ payload
  signatureText : t.signature = signature

section

variable {t : ReadToken} {text header payload signature : String}

theorem ReadToken.Of.saysHeader_iff (of : t.Of text header payload signature) (h : TokenHeader) :
    SaysHeader text h ↔ h = t.header := by
  rw [of.segments.saysHeader_iff]
  exact ⟨fun spelt => spelt.unique of.headerSpelt, fun same => same ▸ of.headerSpelt⟩

theorem ReadToken.Of.saysPayload_iff (of : t.Of text header payload signature) (p : Payload) :
    SaysPayload text p ↔ p = t.payload := by
  rw [of.segments.saysPayload_iff]
  exact ⟨fun spelt => spelt.unique of.payloadSpelt, fun same => same ▸ of.payloadSpelt⟩

/-- The signature of a token that was read holds if its third segment verifies. -/
theorem ReadToken.Of.signatureHolds_iff (of : t.Of text header payload signature)
    (check : SignatureCheck) (key : SigningKey) :
    t.signatureHolds check key = true ↔ key.Signs check header payload signature := by
  unfold ReadToken.signatureHolds SigningKey.Signs
  rw [of.signatureText, of.signedText]
  cases Base64.urlSafe.decodeText signature <;> simp

end

end TokenGate
