/-! # Blank characters and the words between them

Blank means the Unicode property `White_Space`: a no-break space is blank, a zero-width space is
not. Trimming and splitting work on lists of characters; the `String` forms wrap them. -/

namespace TokenGate.Text

/-- The members of `White_Space`. -/
def isBlank (c : Char) : Bool :=
  let n := c.toNat
  (0x09 ≤ n && n ≤ 0x0D) || n == 0x20 || n == 0x85 || n == 0xA0 || n == 0x1680
    || (0x2000 ≤ n && n ≤ 0x200A) || n == 0x2028 || n == 0x2029 || n == 0x202F
    || n == 0x205F || n == 0x3000

/-- Drops the longest run at the end whose members satisfy `p`. -/
def dropTrailing (p : α → Bool) : List α → List α
  | [] => []
  | a :: rest =>
    match dropTrailing p rest with
    | [] => if p a then [] else [a]
    | kept => a :: kept

/-- Drops blanks at both ends. -/
def trimChars (cs : List Char) : List Char :=
  dropTrailing isBlank (cs.dropWhile isBlank)

/-- The pieces between members that satisfy `p`, empty pieces included; there is always one. -/
def pieces (p : α → Bool) : List α → List (List α)
  | [] => [[]]
  | a :: rest =>
    match pieces p rest with
    | [] => [[a]]
    | piece :: more => if p a then [] :: piece :: more else (a :: piece) :: more

/-- The maximal runs of characters that are not blank. -/
def wordChars (cs : List Char) : List (List Char) :=
  (pieces isBlank cs).filter fun piece => !piece.isEmpty

def trim (s : String) : String :=
  String.ofList (trimChars s.toList)

def words (s : String) : List String :=
  (wordChars s.toList).map String.ofList

/-- The pieces of a text between occurrences of one character. -/
def splitAt (separator : Char) (s : String) : List String :=
  (pieces (· == separator) s.toList).map String.ofList

/-- A text is blank when all its characters are; the empty text is blank. -/
def blank (s : String) : Bool :=
  s.toList.all isBlank

/-- Upper-case ASCII letters become lower-case; every other character stays. -/
def lowerAscii (s : String) : String :=
  s.map Char.toLower

/-- Texts are equal up to the case of ASCII letters. -/
def equalsIgnoringAsciiCase (s t : String) : Bool :=
  lowerAscii s == lowerAscii t

theorem pieces_ne_nil (p : α → Bool) (as : List α) : pieces p as ≠ [] := by
  cases as with
  | nil => simp [pieces]
  | cons a rest =>
    unfold pieces
    split
    · simp
    · split <;> simp

end TokenGate.Text
