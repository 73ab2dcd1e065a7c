import Contracts.Unicode.Additions
import Contracts.Unicode.Letters
import Contracts.Unicode.Marks
import Contracts.Unicode.Numbers
import Contracts.Unicode.Properties
import Contracts.Unicode.Punctuation
import Contracts.Unicode.Separators
import Contracts.Unicode.Symbols

/-!
# Characters of names and texts

What texts and names are asked about their characters, by Unicode 17: whether a character is
white space, a letter or a number, whether it joins the one before it, and whether it can be seen.
-/

namespace Contracts.Unicode

/-- Whether a code point belongs to one of several tables. -/
def anyOf (tables : List Runs) (c : Nat) : Bool := tables.any (·.holds c)

/-- Whether a character is white space. -/
def isSpace (c : Char) : Bool := whiteSpace.holds c.toNat

/-- Whether a character is alphabetic. -/
def isAlphabetic (c : Char) : Bool :=
  anyOf [upperLetters, lowerLetters, titleLetters, modifierLetters, otherLetters, letterNumbers,
    otherAlphabetic, addedAlphabetic] c.toNat

/-- Whether a character is a number of any kind. -/
def isNumeric (c : Char) : Bool :=
  anyOf [decimalDigits, letterNumbers, otherNumbers, addedNumbers] c.toNat

/-- Whether a character extends the grapheme before it. -/
def extendsGrapheme (c : Char) : Bool :=
  anyOf [nonspacingMarks, enclosingMarks, otherGraphemeExtend, addedGraphemeExtend] c.toNat

/-- Whether a character has a visible form, the plain blank included. -/
def isPrintable (c : Char) : Bool :=
  c == ' ' ||
    (!defaultIgnorable.holds c.toNat &&
      anyOf [upperLetters, lowerLetters, titleLetters, modifierLetters, otherLetters,
        nonspacingMarks, spacingMarks, enclosingMarks, decimalDigits, letterNumbers, otherNumbers,
        connectors, dashes, openings, closings, initialQuotes, finalQuotes, otherPunctuation,
        mathSymbols, currencySymbols, modifierSymbols, otherSymbols, addedCharacters] c.toNat)

end Contracts.Unicode
