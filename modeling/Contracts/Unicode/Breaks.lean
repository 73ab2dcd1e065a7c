import Contracts.Unicode.CaseChange
import Contracts.Unicode.Script

/-!
# Where texts can be broken

The characters by the part that they play for the bounds of graphemes, words and sentences. Most
parts follow from the other properties of Unicode 16; the tables hold what the rules name one by
one.
-/

namespace Contracts.Unicode

/-- The characters that extend a grapheme. -/
def graphemeExtendSet : CodeSet :=
  setOf [nonspacingMarks, enclosingMarks, otherGraphemeExtend]

/-- The alphabetic characters. -/
def alphabeticSet : CodeSet := letterSet.union (setOf [letterNumbers, otherAlphabetic])

/-- The carriage return and the line feed, each a part of its own. -/
def singleBreaks : List Property := [
  ⟨["cr"], .range 0xD 0xD⟩,
  ⟨["lf"], .range 0xA 0xA⟩]

/-- What extends a grapheme, a colour of skin included. -/
def graphemeExtenders : CodeSet := graphemeExtendSet.union (.ofRuns emojiModifier)

/-- The marks with a width of their own that do not extend a grapheme. -/
def standingMarks : CodeSet := .ofRanges [
  (0x102B, 0x102C), (0x1038, 0x1038), (0x1062, 0x1064), (0x1067, 0x106D), (0x1083, 0x1083),
  (0x1087, 0x108C), (0x108F, 0x108F), (0x109A, 0x109C), (0x1A61, 0x1A61), (0x1A63, 0x1A64),
  (0xAA7B, 0xAA7B), (0xAA7D, 0xAA7D), (0x11720, 0x11721)]

/-- The letters that a consonant behind them is written on. -/
def prependedLetters : CodeSet := .ofRanges [
  (0xD4E, 0xD4E), (0x111C2, 0x111C3), (0x113D1, 0x113D1), (0x1193F, 0x1193F), (0x11941, 0x11941),
  (0x11A3A, 0x11A3A), (0x11A84, 0x11A89), (0x11D46, 0x11D46), (0x11F02, 0x11F02)]

/-- The syllables of Hangul. -/
def hangulSyllables : CodeSet := .range 0xAC00 0xD7A3

/-- The syllables of Hangul without a final consonant. -/
def openSyllables : CodeSet := .ofRuns [(0xAC00, 0xD788, 28)]

/-- The parts that characters play for the bounds of graphemes. -/
def graphemeBreaks : List Property := singleBreaks ++ [
  ⟨["cn", "control"],
    (CodeSet.unions [setOf [lineSeparators, paragraphSeparators, controls, formats],
      assignedSet.compl.inter (.ofRuns defaultIgnorable)]).diff
      (.unions [.ofRanges [(0xA, 0xA), (0xD, 0xD), (0x200C, 0x200D)], .ofRuns prependedMark,
        graphemeExtenders])⟩,
  ⟨["ex", "extend"], graphemeExtenders⟩,
  ⟨["pp", "prepend"], (CodeSet.ofRuns prependedMark).union prependedLetters⟩,
  ⟨["sm", "spacingmark"],
    ((CodeSet.ofRuns spacingMarks).union (.ofRanges [(0xE33, 0xE33), (0xEB3, 0xEB3)])).diff
      (graphemeExtenders.union standingMarks)⟩,
  ⟨["l"], .ofRanges [(0x1100, 0x115F), (0xA960, 0xA97C)]⟩,
  ⟨["v"], .ofRanges [(0x1160, 0x11A7), (0xD7B0, 0xD7C6), (0x16D63, 0x16D63), (0x16D67, 0x16D6A)]⟩,
  ⟨["t"], .ofRanges [(0x11A8, 0x11FF), (0xD7CB, 0xD7FB)]⟩,
  ⟨["lv"], openSyllables⟩,
  ⟨["lvt"], hangulSyllables.diff openSyllables⟩,
  .ofRuns ["ri", "regionalindicator"] regionalIndicator,
  ⟨["zwj"], .range 0x200D 0x200D⟩]

/-- What goes before digits and counts as one of them. -/
def digitMarks : CodeSet := (CodeSet.ofRuns prependedMark).diff (.range 0x70F 0x70F)

/-- The letters of Hebrew. -/
def hebrewLetters : CodeSet := (CodeSet.ofRuns Script.hebrewRuns).inter (.ofRuns otherLetters)

/-- The letters of Katakana, and the signs that are written among them. -/
def katakanaLetters : CodeSet :=
  (CodeSet.ofRuns Script.katakanaRuns).union
    (.ofRanges [(0x3031, 0x3035), (0x309B, 0x309C), (0x30A0, 0x30A0), (0x30FC, 0x30FC),
      (0xFF70, 0xFF70)])

/-- The marks and modifiers inside words. -/
def wordExtenders : CodeSet := .unions [graphemeExtenders, .ofRuns spacingMarks]

/-- Signs that count as letters inside words. -/
def wordSigns : CodeSet := .ofRanges [
  (0xB8, 0xB8), (0x2C2, 0x2C5), (0x2D2, 0x2D7), (0x2DE, 0x2DF), (0x2E5, 0x2EB), (0x2ED, 0x2ED),
  (0x2EF, 0x2FF), (0x55A, 0x55C), (0x55E, 0x55E), (0x58A, 0x58A), (0x5F3, 0x5F3), (0x70F, 0x70F),
  (0xA708, 0xA716), (0xA720, 0xA721), (0xA789, 0xA78A), (0xAB5B, 0xAB5B)]

/-- The letters of scripts that are written without blanks between the words. -/
def unspacedLetters : CodeSet := .ofRanges [
  (0xE01, 0xE30), (0xE32, 0xE33), (0xE40, 0xE46), (0xE81, 0xE82), (0xE84, 0xE84), (0xE86, 0xE8A),
  (0xE8C, 0xEA3), (0xEA5, 0xEA5), (0xEA7, 0xEB0), (0xEB2, 0xEB3), (0xEBD, 0xEBD), (0xEC0, 0xEC4),
  (0xEC6, 0xEC6), (0xEDC, 0xEDF), (0x1000, 0x102A), (0x103F, 0x103F), (0x1050, 0x1055),
  (0x105A, 0x105D), (0x1061, 0x1061), (0x1065, 0x1066), (0x106E, 0x1070), (0x1075, 0x1081),
  (0x108E, 0x108E), (0x1780, 0x17B3), (0x17D7, 0x17D7), (0x17DC, 0x17DC), (0x1950, 0x196D),
  (0x1970, 0x1974), (0x1980, 0x19AB), (0x19B0, 0x19C9), (0x1A20, 0x1A54), (0x1AA7, 0x1AA7),
  (0xA9E0, 0xA9E4), (0xA9E6, 0xA9EF), (0xA9FA, 0xA9FE), (0xAA60, 0xAA76), (0xAA7A, 0xAA7A),
  (0xAA7E, 0xAAAF), (0xAAB1, 0xAAB1), (0xAAB5, 0xAAB6), (0xAAB9, 0xAABD), (0xAAC0, 0xAAC0),
  (0xAAC2, 0xAAC2), (0xAADB, 0xAADD), (0x11700, 0x1171A), (0x11740, 0x11746)]

/-- What may stand between letters of a word. -/
def betweenLetters : CodeSet := .ofRanges [
  (0x3A, 0x3A), (0xB7, 0xB7), (0x387, 0x387), (0x55F, 0x55F), (0x5F4, 0x5F4), (0x2027, 0x2027),
  (0xFE13, 0xFE13), (0xFE55, 0xFE55), (0xFF1A, 0xFF1A)]

/-- What may stand between digits of a number. -/
def betweenDigits : CodeSet := .ofRanges [
  (0x2C, 0x2C), (0x3B, 0x3B), (0x37E, 0x37E), (0x589, 0x589), (0x60C, 0x60D), (0x66C, 0x66C),
  (0x7F8, 0x7F8), (0x2044, 0x2044), (0xFE10, 0xFE10), (0xFE14, 0xFE14), (0xFE50, 0xFE50),
  (0xFE54, 0xFE54), (0xFF0C, 0xFF0C), (0xFF1B, 0xFF1B)]

/-- What may stand between letters and between digits. -/
def betweenBoth : CodeSet := .ofRanges [
  (0x2E, 0x2E), (0x2018, 0x2019), (0x2024, 0x2024), (0xFE52, 0xFE52), (0xFF07, 0xFF07),
  (0xFF0E, 0xFF0E)]

/-- The parts that characters play for the bounds of words. -/
def wordBreaks : List Property := singleBreaks ++ [
  ⟨["dq", "doublequote"], .range 0x22 0x22⟩,
  ⟨["sq", "singlequote"], .range 0x27 0x27⟩,
  ⟨["nl", "newline"], .ofRanges [(0xB, 0xC), (0x85, 0x85), (0x2028, 0x2029)]⟩,
  ⟨["ex", "extendnumlet"], (CodeSet.ofRuns connectors).union (.range 0x202F 0x202F)⟩,
  ⟨["extend"], wordExtenders⟩,
  ⟨["fo", "format"],
    (CodeSet.ofRuns formats).diff
      (.unions [.range 0x200B 0x200D, .ofRuns prependedMark, wordExtenders])⟩,
  ⟨["hl", "hebrewletter"], hebrewLetters⟩,
  ⟨["ka", "katakana"], katakanaLetters⟩,
  ⟨["le", "aletter"],
    (alphabeticSet.union wordSigns).diff
      (.unions [.ofRuns ideographic, katakanaLetters, .ofRuns Script.hiraganaRuns, wordExtenders,
        hebrewLetters, unspacedLetters])⟩,
  ⟨["ml", "midletter"], betweenLetters⟩,
  ⟨["mn", "midnum"], betweenDigits⟩,
  ⟨["mb", "midnumlet"], betweenBoth⟩,
  ⟨["nu", "numeric"], .unions [.ofRuns decimalDigits, .range 0x66B 0x66B, digitMarks]⟩,
  .ofRuns ["ri", "regionalindicator"] regionalIndicator,
  ⟨["wsegspace"],
    (CodeSet.ofRuns spaces).diff (.ofRanges [(0xA0, 0xA0), (0x2007, 0x2007), (0x202F, 0x202F)])⟩,
  ⟨["zwj"], .range 0x200D 0x200D⟩]

/-- The separators of paragraphs. -/
def paragraphEnds : CodeSet := .ofRanges [(0x85, 0x85), (0x2028, 0x2029)]

/-- The marks and the joiners inside sentences. -/
def sentenceExtenders : CodeSet :=
  .unions [graphemeExtendSet, .ofRuns spacingMarks, .range 0x200D 0x200D]

/-- The full stops, which do not always end a sentence. -/
def fullStops : CodeSet := .ofRanges [
  (0x2E, 0x2E), (0x2024, 0x2024), (0xFE52, 0xFE52), (0xFF0E, 0xFF0E)]

/-- The marks that end a sentence. -/
def sentenceEnds : CodeSet := (CodeSet.ofRuns sentenceTerminal).diff fullStops

/-- The letters of lower case in sentences; those of Georgian stand in all places. -/
def sentenceLower : CodeSet :=
  lowercaseSet.diff (graphemeExtendSet.union (.ofRuns georgianLetters))

/-- The letters of upper case in sentences. -/
def sentenceUpper : CodeSet :=
  (titlecaseSet.union uppercaseSet).diff (.ofRanges [(0x1C90, 0x1CBA), (0x1CBD, 0x1CBF)])

/-- The marks after which a sentence goes on. -/
def sentencePauses : CodeSet := .ofRanges [
  (0x2C, 0x2D), (0x3A, 0x3B), (0x37E, 0x37E), (0x55D, 0x55D), (0x60C, 0x60D), (0x7F8, 0x7F8),
  (0x1802, 0x1802), (0x1808, 0x1808), (0x2013, 0x2014), (0x3001, 0x3001), (0xFE10, 0xFE11),
  (0xFE13, 0xFE14), (0xFE31, 0xFE32), (0xFE50, 0xFE51), (0xFE54, 0xFE55), (0xFE58, 0xFE58),
  (0xFE63, 0xFE63), (0xFF0C, 0xFF0D), (0xFF1A, 0xFF1B), (0xFF64, 0xFF64)]

/-- Quotation marks that open and close alike. -/
def plainQuotes : CodeSet := .ofRanges [
  (0x22, 0x22), (0x27, 0x27), (0x275B, 0x2760), (0x2E00, 0x2E01), (0x2E06, 0x2E08),
  (0x2E0B, 0x2E0B), (0x1F676, 0x1F678)]

/-- The parts that characters play for the bounds of sentences. -/
def sentenceBreaks : List Property := singleBreaks ++ [
  ⟨["se", "sep"], paragraphEnds⟩,
  ⟨["ex", "extend"], sentenceExtenders⟩,
  ⟨["fo", "format"],
    (CodeSet.ofRuns formats).diff
      (.unions [.range 0x200C 0x200D, digitMarks, sentenceExtenders])⟩,
  ⟨["sp"],
    (CodeSet.ofRuns whiteSpace).diff
      (paragraphEnds.union (.ofRanges [(0xA, 0xA), (0xD, 0xD)]))⟩,
  ⟨["lo", "lower"], sentenceLower⟩,
  ⟨["up", "upper"], sentenceUpper⟩,
  ⟨["le", "oletter"],
    (alphabeticSet.union (.range 0x5F3 0x5F3)).diff
      (.unions [sentenceLower, sentenceUpper, sentenceExtenders])⟩,
  ⟨["nu", "numeric"], .unions [.ofRuns decimalDigits, .range 0x66B 0x66C, digitMarks]⟩,
  ⟨["at", "aterm"], fullStops⟩,
  ⟨["st", "sterm"], sentenceEnds⟩,
  ⟨["sc", "scontinue"], sentencePauses⟩,
  ⟨["cl", "close"],
    ((setOf [openings, closings, initialQuotes, finalQuotes]).union plainQuotes).diff
      (.unions [.range 0x5F3 0x5F3, fullStops, sentenceEnds])⟩]

end Contracts.Unicode
