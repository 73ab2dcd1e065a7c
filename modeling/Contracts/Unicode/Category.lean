import Contracts.Unicode.Letters
import Contracts.Unicode.Marks
import Contracts.Unicode.Numbers
import Contracts.Unicode.Property
import Contracts.Unicode.Punctuation
import Contracts.Unicode.Separators
import Contracts.Unicode.Symbols

/-!
# General categories

Every character belongs to exactly one general category of Unicode 16, and the categories form
groups. The surrogates, which are no characters, have no category here.
-/

namespace Contracts.Unicode

/-- The set of several tables. -/
def setOf (tables : List Runs) : CodeSet := .unions (tables.map .ofRuns)

/-- The letters with two cases. -/
def casedLetterSet : CodeSet := setOf [upperLetters, lowerLetters, titleLetters]

/-- The letters. -/
def letterSet : CodeSet := casedLetterSet.union (setOf [modifierLetters, otherLetters])

/-- The marks. -/
def markSet : CodeSet := setOf [nonspacingMarks, spacingMarks, enclosingMarks]

/-- The numbers. -/
def numberSet : CodeSet := setOf [decimalDigits, letterNumbers, otherNumbers]

/-- The punctuation. -/
def punctuationSet : CodeSet :=
  setOf [connectors, dashes, openings, closings, initialQuotes, finalQuotes, otherPunctuation]

/-- The symbols. -/
def symbolSet : CodeSet := setOf [mathSymbols, currencySymbols, modifierSymbols, otherSymbols]

/-- The separators. -/
def separatorSet : CodeSet := setOf [spaces, lineSeparators, paragraphSeparators]

/-- The controls, the formats and what is for private use. -/
def controlSet : CodeSet := setOf [controls, formats, privateUse]

/-- The characters that have been given a meaning. -/
def assignedSet : CodeSet :=
  .unions [letterSet, markSet, numberSet, punctuationSet, symbolSet, separatorSet, controlSet]

/-- The general categories and their groups. -/
def generalCategories : List Property := [
  ⟨["any"], .characters⟩,
  ⟨["assigned"], assignedSet⟩,
  ⟨["ascii"], .range 0 0x7F⟩,
  ⟨["lc", "casedletter"], casedLetterSet⟩,
  ⟨["l", "letter"], letterSet⟩,
  ⟨["m", "mark", "combiningmark"], markSet⟩,
  ⟨["n", "number"], numberSet⟩,
  ⟨["p", "punctuation", "punct"], punctuationSet⟩,
  ⟨["s", "symbol"], symbolSet⟩,
  ⟨["z", "separator"], separatorSet⟩,
  ⟨["c", "other"], controlSet.union assignedSet.compl⟩,
  .ofRuns ["lu", "uppercaseletter"] upperLetters,
  .ofRuns ["ll", "lowercaseletter"] lowerLetters,
  .ofRuns ["lt", "titlecaseletter"] titleLetters,
  .ofRuns ["lm", "modifierletter"] modifierLetters,
  .ofRuns ["lo", "otherletter"] otherLetters,
  .ofRuns ["mn", "nonspacingmark"] nonspacingMarks,
  .ofRuns ["mc", "spacingmark"] spacingMarks,
  .ofRuns ["me", "enclosingmark"] enclosingMarks,
  .ofRuns ["nd", "decimalnumber", "digit"] decimalDigits,
  .ofRuns ["nl", "letternumber"] letterNumbers,
  .ofRuns ["no", "othernumber"] otherNumbers,
  .ofRuns ["pc", "connectorpunctuation"] connectors,
  .ofRuns ["pd", "dashpunctuation"] dashes,
  .ofRuns ["ps", "openpunctuation"] openings,
  .ofRuns ["pe", "closepunctuation"] closings,
  .ofRuns ["pi", "initialpunctuation"] initialQuotes,
  .ofRuns ["pf", "finalpunctuation"] finalQuotes,
  .ofRuns ["po", "otherpunctuation"] otherPunctuation,
  .ofRuns ["sm", "mathsymbol"] mathSymbols,
  .ofRuns ["sc", "currencysymbol"] currencySymbols,
  .ofRuns ["sk", "modifiersymbol"] modifierSymbols,
  .ofRuns ["so", "othersymbol"] otherSymbols,
  .ofRuns ["zs", "spaceseparator"] spaces,
  .ofRuns ["zl", "lineseparator"] lineSeparators,
  .ofRuns ["zp", "paragraphseparator"] paragraphSeparators,
  .ofRuns ["cc", "control", "cntrl"] controls,
  .ofRuns ["cf", "format"] formats,
  .ofRuns ["co", "privateuse"] privateUse,
  ⟨["cn", "unassigned"], assignedSet.compl⟩]

end Contracts.Unicode
