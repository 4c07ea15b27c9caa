import TokenGate.Proofs.Url.Name
import TokenGate.Url.Parser

/-! # URLs of the web by their parts

A text that is `https://`, a name and a path reads as just these parts: nothing in a name ends the
authority, or divides it, so all of it is the host. -/

namespace TokenGate.Url

/-- Tabs and line ends are among the blanks and controls. -/
theorem isSkipped_of_visible {c : Char} (visible : isEdge c = false) : isSkipped c = false := by
  rw [← Bool.not_eq_true]
  intro skipped
  simp only [isSkipped, Bool.or_eq_true, beq_iff_eq] at skipped
  rcases skipped with (rfl | rfl) | rfl <;> cases visible

private theorem significant_eq_toList {s : String} (visible : ∀ c ∈ s.toList, isEdge c = false) :
    significant s = s.toList := by
  have kept : ∀ c ∈ s.toList, (!isSkipped c) = true := fun c member => by
    rw [isSkipped_of_visible (visible c member)]
    rfl
  have front : s.toList.dropWhile isEdge = s.toList :=
    Text.dropWhile_eq_self fun c first => visible c (List.mem_of_mem_head? first)
  have back : Text.dropTrailing isEdge s.toList = s.toList := by
    rw [Text.dropTrailing_eq_rdropWhile]
    exact Text.rdropWhile_eq_self fun c last => visible c (List.mem_of_mem_getLast? last)
  rw [significant, front, back, List.filter_eq_self.2 kept]

private theorem scheme?_https (rest : List Char) :
    scheme? ("https:".toList ++ rest) = some ("https", rest) := by
  have lower : Text.lowerAscii (String.ofList ['h', 't', 't', 'p', 's']) = "https" := by
    rw [← String.toList_inj, Text.toList_lowerAscii, String.toList_ofList]
    rfl
  rw [← lower]
  rfl

private theorem hostAndPort_of_plain {cs : List Char} (plain : ∀ c ∈ cs, c ≠ ':' ∧ c ≠ '[') :
    hostAndPort false cs = (cs, none) := by
  induction cs with
  | nil => rfl
  | cons c rest ih =>
    obtain ⟨undivided, outside⟩ := plain c (List.mem_cons_self ..)
    have tail := ih fun d member => plain d (List.mem_cons_of_mem _ member)
    simp [hostAndPort, undivided, outside, tail]

private theorem splitLast_of_absent {p : Char → Bool} {cs : List Char}
    (absent : ∀ c ∈ cs, p c = false) : splitLast p cs = (none, cs) := by
  rw [splitLast, if_neg]
  simpa using absent

/-- An authority of name characters is a host and nothing else. -/
theorem authority_of_name (scheme : String) {name : List Char} (something : name ≠ [])
    (named : ∀ c ∈ name, Domain.isNameChar c = true) :
    authority scheme .special name = (Host.ofText name).map fun host => ("", "", host, none) := by
  have plain (c) (member : c ∈ name) : (c == '@') = false ∧ c ≠ ':' ∧ c ≠ '[' :=
    Domain.forall_nameChar (p := fun c => (c == '@') = false ∧ c ≠ ':' ∧ c ≠ '[') (by decide)
      (named c member)
  have unsigned := splitLast_of_absent fun c member => (plain c member).1
  have undivided := hostAndPort_of_plain fun c member => (plain c member).2
  have present : name.isEmpty = false := by simpa using something
  simp only [authority, unsigned, undivided, present]
  cases Host.ofText name <;> rfl

/-- The URL of an authority's parts and of what stands behind it. -/
def behind (scheme : String) (kind : SchemeKind) (rest : List Char)
    (front : String × String × Host × Option Nat) : Url :=
  let (query, fragment) := queryAndFragment kind (rest.dropWhile fun c => !endsPath c)
  ⟨scheme, front.1, front.2.1, some front.2.2.1, front.2.2.2,
    pathOf kind (rest.takeWhile fun c => !endsPath c), query, fragment⟩

/-- An authority ends at the first character that may end it. -/
theorem withAuthority_append {scheme : String} {kind : SchemeKind} {front rest : List Char}
    (inside : ∀ c ∈ front, endsAuthority kind c = false)
    (ended : ∀ c ∈ rest.head?, endsAuthority kind c = true) :
    withAuthority scheme kind (front ++ rest) =
      (authority scheme kind front).map (behind scheme kind rest) := by
  have inside : ∀ c ∈ front, (!endsAuthority kind c) = true := by simpa using inside
  have ended : ∀ c ∈ rest.head?, (!endsAuthority kind c) = false := by simpa using ended
  rw [withAuthority, Text.takeWhile_append_of_head inside ended,
    Text.dropWhile_append_of_head inside ended]
  cases authority scheme kind front <;> rfl

/-- Behind the authority stands a path alone, where nothing ends it. -/
theorem behind_of_bare {scheme : String} {kind : SchemeKind} {rest : List Char}
    (bare : ∀ c ∈ rest, endsPath c = false) (front : String × String × Host × Option Nat) :
    behind scheme kind rest front =
      ⟨scheme, front.1, front.2.1, some front.2.2.1, front.2.2.2, pathOf kind rest, none, none⟩ := by
  have bare : ∀ c ∈ rest, (!endsPath c) = true := by simpa using bare
  simp only [behind, List.takeWhile_eq_self_iff.2 bare, List.dropWhile_eq_nil_iff.2 bare]
  rfl

/-- A name behind `https://` and a path behind the name. None of the characters of the name is
stripped, skipped, or ends the authority. -/
theorem ofText_https {name path : List Char} (something : name ≠ [])
    (named : ∀ c ∈ name, Domain.isNameChar c = true)
    (plain : ∀ c ∈ path, isEdge c = false ∧ endsPath c = false) :
    ofText (String.ofList ("https://".toList ++ name ++ '/' :: path)) =
      (Host.ofText name).map fun host =>
        ⟨"https", "", "", some host, none, pathOf .special ('/' :: path), none, none⟩ := by
  have quiet (c) (member : c ∈ name) :
      isEdge c = false ∧ isSlash .special c = false ∧ endsAuthority .special c = false :=
    Domain.forall_nameChar (p := fun c =>
      isEdge c = false ∧ isSlash .special c = false ∧ endsAuthority .special c = false) (by decide)
      (named c member)
  have counted : significant (String.ofList ("https://".toList ++ name ++ '/' :: path)) =
      "https:".toList ++ ('/' :: '/' :: (name ++ '/' :: path)) := by
    rw [significant_eq_toList]
    · simp
    · intro c member
      rw [String.toList_ofList, List.mem_append, List.mem_append, List.mem_cons] at member
      rcases member with (inFront | inName) | rfl | inPath
      · have shown : ∀ c ∈ "https://".toList, isEdge c = false := by simp [isEdge]
        exact shown c inFront
      · exact (quiet c inName).1
      · rfl
      · exact (plain c inPath).1
  have unslashed : ('/' :: '/' :: (name ++ '/' :: path)).dropWhile (isSlash .special) =
      name ++ '/' :: path := by
    rw [List.dropWhile_cons_of_pos rfl, List.dropWhile_cons_of_pos rfl]
    refine Text.dropWhile_eq_self fun c first => ?_
    obtain ⟨d, more, rfl⟩ := List.exists_cons_of_ne_nil something
    obtain rfl : d = c := by simpa using first
    exact (quiet d (List.mem_cons_self ..)).2.1
  have bare (c) (member : c ∈ '/' :: path) : endsPath c = false := by
    rcases List.mem_cons.1 member with rfl | inPath
    · rfl
    · exact (plain c inPath).2
  have special : SchemeKind.of "https" = .special := rfl
  rw [ofText, counted, scheme?_https]
  simp only [special, unslashed]
  rw [withAuthority_append (fun c member => (quiet c member).2.2) (by simp [endsAuthority, isSlash]),
    authority_of_name "https" something named]
  cases Host.ofText name with
  | error e => rfl
  | ok host => exact congrArg Except.ok (behind_of_bare bare ("", "", host, none))

end TokenGate.Url
