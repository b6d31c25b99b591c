/-!
Text as a list of 16-bit units.

Lengths, columns, cuts and comparisons of this library all count 16-bit units, and a cut may fall
between the two halves of a pair: erasing the last unit of an input line, or typing a line unit by
unit, leaves such a half behind. `String` cannot hold one, so `Text` is the list of units itself.
`Text.ofString` splits each character into its units, and `Text.toString` joins them again, with
the replacement character for a half that has lost its partner.
-/

namespace VisualNovel

/-- Text, as the list of its 16-bit units. -/
abbrev Text := List UInt16

namespace Text

/-! ## 1. Units and characters -/

/-- The unit of a character of the basic plane. -/
def unit (c : Char) : UInt16 := c.toNat.toUInt16

/-- The units of one character: one for the basic plane, a pair above it. -/
def unitsOf (c : Char) : Text :=
  if c.toNat < 0x10000 then [unit c]
  else
    let offset := c.toNat - 0x10000
    [(0xD800 + offset / 0x400).toUInt16, (0xDC00 + offset % 0x400).toUInt16]

/-- The units of a string, in order. -/
def ofString (s : String) : Text := s.toList.flatMap unitsOf

instance : Coe String Text := ⟨ofString⟩

/-- The first half of a pair. -/
def isHighHalf (u : UInt16) : Bool := 0xD800 ≤ u && u < 0xDC00

/-- The second half of a pair. -/
def isLowHalf (u : UInt16) : Bool := 0xDC00 ≤ u && u < 0xE000

/-- The character that two halves make together. -/
def joinHalves (high low : UInt16) : Char :=
  Char.ofNat (0x10000 + (high.toNat - 0xD800) * 0x400 + (low.toNat - 0xDC00))

/-- What stands for half of a pair without its partner. -/
def replacement : Char := '\uFFFD'

/-- The characters of a text; a half without its partner becomes the replacement character. -/
def toChars : Text → List Char
  | [] => []
  | [u] => [if isHighHalf u || isLowHalf u then replacement else Char.ofNat u.toNat]
  | u :: v :: rest =>
    if isHighHalf u && isLowHalf v then joinHalves u v :: toChars rest
    else
      (if isHighHalf u || isLowHalf u then replacement else Char.ofNat u.toNat) ::
        toChars (v :: rest)

/-- The string of a text, with replacement characters for halves without a partner. -/
def toString (t : Text) : String := String.ofList (toChars t)

/-- The text with every half that has lost its partner replaced. -/
def repaired (t : Text) : Text := (toChars t).flatMap unitsOf

/-! ## 2. Parts of a text -/

/-- Whether `t` begins with `start`. -/
def startsWith (t start : Text) : Bool := start.isPrefixOf t

/-- The text without its last unit. -/
def eraseLast (t : Text) : Text := t.take (t.length - 1)

/-- The parts between one separating unit; there is always at least one part. -/
def splitOn (separator : UInt16) : Text → List Text
  | [] => [[]]
  | u :: rest =>
    if u = separator then [] :: splitOn separator rest
    else
      match splitOn separator rest with
      | [] => [[u]]
      | part :: parts => (u :: part) :: parts

/-- The texts one after another, with a separator between neighbours. -/
def join (separator : Text) (parts : List Text) : Text := separator.intercalate parts

/-- The decimal digits of a natural number. -/
def ofNat (n : Nat) : Text := (Nat.toDigits 10 n).map unit

/-- The decimal text of an integer. -/
def ofInt (i : Int) : Text :=
  if i < 0 then unit '-' :: ofNat i.natAbs else ofNat i.natAbs

/-! ## 3. Classes of units -/

/-- A decimal digit of ASCII. -/
def isDigit (u : UInt16) : Bool := unit '0' ≤ u && u ≤ unit '9'

/-- A letter of ASCII. -/
def isLetter (u : UInt16) : Bool :=
  (unit 'A' ≤ u && u ≤ unit 'Z') || (unit 'a' ≤ u && u ≤ unit 'z')

/-- A hexadecimal digit of ASCII. -/
def isHexDigit (u : UInt16) : Bool :=
  isDigit u || (unit 'A' ≤ u && u ≤ unit 'F') || (unit 'a' ≤ u && u ≤ unit 'f')

/-- The value of a digit, for units that are digits. -/
def digitValue (u : UInt16) : Nat := u.toNat - (unit '0').toNat

/-- The value of a hexadecimal digit, for units that are one. -/
def hexValue (u : UInt16) : Nat :=
  if isDigit u then digitValue u
  else if unit 'a' ≤ u then u.toNat - (unit 'a').toNat + 10
  else u.toNat - (unit 'A').toNat + 10

/-- The natural number that a run of decimal digits spells. -/
def natOfDigits (digits : Text) : Nat :=
  digits.foldl (fun n u => n * 10 + digitValue u) 0

end Text
end VisualNovel
