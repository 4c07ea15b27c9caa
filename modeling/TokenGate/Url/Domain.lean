import TokenGate.Text.Class
import TokenGate.Text.Composition
import TokenGate.Text.Cursive
import TokenGate.Text.Direction
import TokenGate.Text.Folding
import TokenGate.Text.Punycode
import TokenGate.Text.Symbol

/-! # Domain names

The ASCII form of a domain name. Upper-case letters become lower-case; a label with other
characters is folded, composed and written in punycode behind `xn--`. A label that stands in that
form already must be the form of some label. -/

namespace TokenGate.Domain

open TokenGate.Text

/-- ASCII characters that stand in no name. -/
def isForbidden (c : Char) : Bool :=
  c.toNat ≤ 0x20 || c.toNat == 0x7F || "%#/:<>?@[\\]^\x60\x7b|\x7d".toList.contains c

def isAscii (c : Char) : Bool := c.toNat < 0x80

/-- The mark of labels in punycode. -/
def punycodeMark : List Char := ['x', 'n', '-', '-']

/-- Keeps letters apart that would be joined. -/
def nonJoiner : Char := '\u200c'

/-- Joins letters that would be kept apart. -/
def joiner : Char := '\u200d'

/-- Some scripts write a joiner behind the mark that silences a vowel. -/
def silenced (before : List Char) : Bool :=
  before.head?.any fun b => Composition.combiningClass b == 9

/-- A character may stand in a label between others, those in front of it in reverse. -/
def isAllowed (before : List Char) (c : Char) (after : List Char) : Bool :=
  if isAscii c then !isForbidden c
  else if c == nonJoiner then silenced before || Cursive.joinsAcross before after
  else if c == joiner then silenced before
  else isPrintable c && c != '\ufffd'

/-- Every character of a label may stand where it does, behind those in front of it in reverse. -/
def allAllowed : (before : List Char) → List Char → Bool
  | _, [] => true
  | before, c :: rest => isAllowed before c rest && allAllowed (c :: before) rest

/-- A label that has an ASCII form: no mark begins it and its characters are allowed. -/
def isLabel (label : List Char) : Bool :=
  !label.head?.any Composition.isMark && allAllowed [] label

/-- The form in which a text is compared. -/
def canonical (cs : List Char) : List Char := Composition.compose (Folding.fold cs)

/-- The part behind the mark of punycode is the form of a label that needs it. -/
def isPunycode (rest : List Char) : Bool :=
  match Punycode.decode? rest with
  | none => false
  | some label => !label.all isAscii && isLabel label && canonical label == label

/-- A label of lower-case ASCII characters. -/
def isAsciiLabel (label : List Char) : Bool :=
  label.all (fun c => !isForbidden c)
    && (!punycodeMark.isPrefixOf label || isPunycode (label.drop 4))

/-- The ASCII form of a canonical label. -/
def asciiLabel? (label : List Char) : Option (List Char) :=
  if label.all isAscii then if isAsciiLabel label then some label else none
  else if isLabel label && !punycodeMark.isPrefixOf label then
    some (punycodeMark ++ Punycode.encode label)
  else none

def labels (cs : List Char) : List (List Char) := pieces (· == '.') cs

/-- The label that a label in punycode stands for; another label stands for itself. -/
def shown (label : List Char) : List Char :=
  if punycodeMark.isPrefixOf label then (Punycode.decode? (label.drop 4)).getD label else label

/-- The labels of a name in their canonical form. -/
def canonicalLabels (name : List Char) : List (List Char) :=
  labels (if name.all isAscii then name.map Char.toLower else canonical name)

/-- The ASCII form of a name. -/
def ascii? (name : List Char) : Option (List Char) :=
  let ls := canonicalLabels name
  if Direction.allOrdered (ls.map shown) then
    (ls.mapM asciiLabel?).map fun ls => ['.'].intercalate ls
  else none

def ofOctets? (octets : List UInt8) : Option String :=
  (decodeUtf8? octets).bind fun name => (ascii? name.toList).map String.ofList

end TokenGate.Domain
