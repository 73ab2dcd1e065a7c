import Contracts.Unicode.Breaks

/-!
# Properties that a character has or lacks

Every property of Unicode 16 that is a plain set of characters, under its long and its short name.
-/

namespace Contracts.Unicode

/-- What starts an identifier. -/
def identifierStart : CodeSet :=
  (letterSet.union (setOf [letterNumbers, otherIdStart])).diff (.ofRuns idException)

/-- What continues an identifier. -/
def identifierContinue : CodeSet :=
  identifierStart.union
    (setOf [nonspacingMarks, spacingMarks, decimalDigits, connectors, otherIdContinue])

/-- What counts for nothing where letters are told by the letters around them. -/
def caseIgnorable : CodeSet :=
  .unions [setOf [nonspacingMarks, enclosingMarks, formats, modifierLetters, modifierSymbols],
    betweenLetters, betweenBoth, .range 0x27 0x27]

/-- The properties that a character has or lacks. -/
def binaryProperties : List Property := [
  ⟨["alphabetic", "alpha"], alphabeticSet⟩,
  ⟨["lowercase", "lower"], lowercaseSet⟩,
  ⟨["uppercase", "upper"], uppercaseSet⟩,
  .ofRuns ["whitespace", "wspace", "space"] whiteSpace,
  ⟨["cased"], .unions [lowercaseSet, uppercaseSet, titlecaseSet]⟩,
  ⟨["caseignorable", "ci"], caseIgnorable⟩,
  ⟨["changeswhenlowercased", "cwl"], lowers⟩,
  ⟨["changeswhenuppercased", "cwu"], raises⟩,
  ⟨["changeswhentitlecased", "cwt"], titles⟩,
  ⟨["changeswhencasefolded", "cwcf"], folds⟩,
  ⟨["changeswhencasemapped", "cwcm"], .unions [lowers, raises, titles]⟩,
  ⟨["math"], setOf [mathSymbols, otherMath]⟩,
  ⟨["graphemeextend", "grext"], graphemeExtendSet⟩,
  ⟨["graphemebase", "grbase"],
    assignedSet.diff
      (.unions [graphemeExtendSet, controlSet, setOf [lineSeparators, paragraphSeparators]])⟩,
  .ofRuns ["graphemelink", "grlink"] graphemeLink,
  ⟨["idstart", "ids"], identifierStart⟩,
  ⟨["idcontinue", "idc"], identifierContinue⟩,
  ⟨["xidstart", "xids"], identifierStart.diff (.ofRuns xidStartException)⟩,
  ⟨["xidcontinue", "xidc"], identifierContinue.diff (.ofRuns xidContinueException)⟩,
  .ofRuns ["idcompatmathstart"] mathStart,
  ⟨["idcompatmathcontinue"], setOf [mathStart, mathContinue]⟩,
  .ofRuns ["asciihexdigit", "ahex"] asciiHexDigit,
  .ofRuns ["hexdigit", "hex"] hexDigit,
  .ofRuns ["joincontrol", "joinc"] joinControl,
  .ofRuns ["bidicontrol", "bidic"] bidiControl,
  .ofRuns ["bidimirrored", "bidim"] bidiMirrored,
  .ofRuns ["dash"] dash,
  .ofRuns ["hyphen"] hyphen,
  .ofRuns ["diacritic", "dia"] diacritic,
  .ofRuns ["extender", "ext"] extender,
  .ofRuns ["modifiercombiningmark", "mcm"] modifierCombiningMark,
  .ofRuns ["prependedconcatenationmark", "pcm"] prependedMark,
  .ofRuns ["ideographic", "ideo"] ideographic,
  .ofRuns ["unifiedideograph", "uideo"] unifiedIdeograph,
  .ofRuns ["radical"] radical,
  .ofRuns ["idsunaryoperator", "idsu"] unaryDescription,
  .ofRuns ["idsbinaryoperator", "idsb"] binaryDescription,
  .ofRuns ["idstrinaryoperator", "idst"] trinaryDescription,
  .ofRuns ["noncharactercodepoint", "nchar"] noncharacter,
  .ofRuns ["patternsyntax", "patsyn"] patternSyntax,
  .ofRuns ["patternwhitespace", "patws"] patternWhiteSpace,
  .ofRuns ["quotationmark", "qmark"] quotationMark,
  .ofRuns ["regionalindicator", "ri"] regionalIndicator,
  .ofRuns ["sentenceterminal", "sterm"] sentenceTerminal,
  .ofRuns ["terminalpunctuation", "term"] terminalPunctuation,
  .ofRuns ["softdotted", "sd"] softDotted,
  .ofRuns ["variationselector", "vs"] variationSelector,
  .ofRuns ["deprecated", "dep"] deprecatedCharacter,
  .ofRuns ["defaultignorablecodepoint", "di"] defaultIgnorable,
  .ofRuns ["logicalorderexception", "loe"] logicalOrderException,
  .ofRuns ["otheralphabetic", "oalpha"] otherAlphabetic,
  .ofRuns ["otherlowercase", "olower"] otherLowercase,
  .ofRuns ["otheruppercase", "oupper"] otherUppercase,
  .ofRuns ["othermath", "omath"] otherMath,
  .ofRuns ["othergraphemeextend", "ogrext"] otherGraphemeExtend,
  .ofRuns ["otherdefaultignorablecodepoint", "odi"] otherDefaultIgnorable,
  .ofRuns ["otheridstart", "oids"] otherIdStart,
  .ofRuns ["otheridcontinue", "oidc"] otherIdContinue,
  .ofRuns ["emoji"] emoji,
  .ofRuns ["emojipresentation", "epres"] emojiPresentation,
  .ofRuns ["emojimodifier", "emod"] emojiModifier,
  .ofRuns ["emojimodifierbase", "ebase"] emojiModifierBase,
  .ofRuns ["emojicomponent", "ecomp"] emojiComponent,
  .ofRuns ["extendedpictographic", "extpict"] extendedPictographic]

end Contracts.Unicode
