import Contracts.Unicode.Category
import Contracts.Unicode.Folding
import Contracts.Unicode.Properties

/-!
# Letters by case

Which characters count as lower case and upper case, and which change when a text is put into
another case. A character that takes part in simple folding changes in the direction that its own
case leaves open; the tables here hold those that have a form of several letters in another case,
and the few that go against the rule.
-/

namespace Contracts.Unicode

/-- The characters that count as lower case. -/
def lowercaseSet : CodeSet := setOf [lowerLetters, otherLowercase]

/-- The characters that count as upper case. -/
def uppercaseSet : CodeSet := setOf [upperLetters, otherUppercase]

/-- The letters that have a title case of their own. -/
def titlecaseSet : CodeSet := .ofRuns titleLetters

/-- The characters that have another case of one letter. -/
def twoCasedSet : CodeSet := folded.union foldTargets

/-- What folds to several letters. -/
def foldsToSeveral : Runs := [
  (0xDF, 0xDF, 1), (0x130, 0x130, 1), (0x149, 0x149, 1), (0x587, 0x587, 1), (0x1E9A, 0x1E9A, 1),
  (0x1F80, 0x1F87, 1), (0x1F90, 0x1F97, 1), (0x1FA0, 0x1FA7, 1), (0x1FB2, 0x1FB4, 1),
  (0x1FB7, 0x1FB7, 1), (0x1FC2, 0x1FC4, 1), (0x1FC7, 0x1FC7, 1), (0x1FF2, 0x1FF4, 1),
  (0x1FF7, 0x1FF7, 1), (0xFB00, 0xFB05, 1), (0xFB13, 0xFB17, 1)]

/-- What folds as it is, but not once its accents are taken apart from it. -/
def foldsOnlyWhole : Runs := [
  (0x1FBE, 0x1FBE, 1), (0x1FD3, 0x1FD3, 1), (0x1FE3, 0x1FE3, 1)]

/-- What has an upper case of several letters, or of one that has another lower case. -/
def raisesToSeveral : Runs := [
  (0x131, 0x131, 1), (0x149, 0x149, 1), (0x1F0, 0x1F0, 1), (0x587, 0x587, 1), (0x1E96, 0x1E9A, 1),
  (0x1F50, 0x1F56, 2), (0x1FB2, 0x1FB2, 1), (0x1FB4, 0x1FB4, 1), (0x1FB6, 0x1FB7, 1),
  (0x1FC2, 0x1FC2, 1), (0x1FC4, 0x1FC4, 1), (0x1FC6, 0x1FC7, 1), (0x1FD2, 0x1FD2, 1),
  (0x1FD6, 0x1FD7, 1), (0x1FE2, 0x1FE2, 1), (0x1FE4, 0x1FE4, 1), (0x1FE6, 0x1FE7, 1),
  (0x1FF2, 0x1FF2, 1), (0x1FF4, 0x1FF4, 1), (0x1FF6, 0x1FF7, 1), (0xFB00, 0xFB04, 1),
  (0xFB13, 0xFB17, 1)]

/-- The Georgian letters, whose capitals are not used at the start of words. -/
def georgianLetters : Runs := [
  (0x10D0, 0x10FA, 1), (0x10FD, 0x10FF, 1)]

/-- The pairs of letters that are written as one capital. -/
def capitalPairs : Runs := [
  (0x1C4, 0x1CA, 3), (0x1F1, 0x1F1, 1)]

/-- What changes in lower case; the Turkish capital `0x130` does without folding. -/
def lowers : CodeSet :=
  ((uppercaseSet.union titlecaseSet).inter twoCasedSet).union (.range 0x130 0x130)

/-- What changes in upper case. -/
def raises : CodeSet := (twoCasedSet.diff uppercaseSet).union (.ofRuns raisesToSeveral)

/-- What changes in title case. -/
def titles : CodeSet :=
  (raises.diff (titlecaseSet.union (.ofRuns georgianLetters))).union (.ofRuns capitalPairs)

/-- What changes when case is folded. -/
def folds : CodeSet := (folded.diff (.ofRuns foldsOnlyWhole)).union (.ofRuns foldsToSeveral)

end Contracts.Unicode
