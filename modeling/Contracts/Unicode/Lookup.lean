import Contracts.Unicode.Age
import Contracts.Unicode.BinaryProperty

/-!
# Looking up characters by property

A set of characters is asked for by a name alone, of a property that characters have or lack, of a
general category or of a script, or by a name and the value that it has.
-/

namespace Contracts.Unicode

/-- The names of properties with values. -/
inductive ValuedProperty where
  | generalCategory
  | script
  | scriptExtensions
  | age
  | graphemeBreak
  | wordBreak
  | sentenceBreak

/-- The property with values of a loose name. -/
def ValuedProperty.ofName? : String → Option ValuedProperty
  | "gc" | "generalcategory" => some .generalCategory
  | "sc" | "script" => some .script
  | "scx" | "scriptextensions" => some .scriptExtensions
  | "age" => some .age
  | "gcb" | "graphemeclusterbreak" => some .graphemeBreak
  | "wb" | "wordbreak" => some .wordBreak
  | "sb" | "sentencebreak" => some .sentenceBreak
  | _ => none

/-- The names that a version goes by: its number, and its number behind a letter without the
point. -/
def versionNames (version : String) : List String :=
  [version, String.ofList ('v' :: version.toList.filter (· != '.'))]

/-- The characters of a version and of those before it. -/
def agedAtMost (name : String) : List (String × Runs) → Option CodeSet
  | [] => none
  | (version, runs) :: rest =>
    if (versionNames version).contains name then some (.ofRuns runs)
    else (agedAtMost name rest).map (CodeSet.ofRuns runs).union

/-- The characters that have a value, given by its loose name. -/
def ValuedProperty.withValue? (value : String) : ValuedProperty → Option CodeSet
  | .generalCategory => Property.find? generalCategories value
  | .script => Property.find? scripts value
  | .scriptExtensions => (scripts.find? (·.names.contains value)).map (·.extensions)
  | .age => agedAtMost value versions
  | .graphemeBreak => Property.find? graphemeBreaks value
  | .wordBreak => Property.find? wordBreaks value
  | .sentenceBreak => Property.find? sentenceBreaks value

/-- The characters of a property by its loose name. The short names `cf`, `sc` and `lc` stand for
general categories. -/
def named? (name : String) : Option CodeSet :=
  Property.find? binaryProperties name <|> Property.find? generalCategories name <|>
    Property.find? scripts name

/-- Look up characters by a property, or by a property and its value. -/
def lookup? (name : String) (value : Option String) : Option CodeSet :=
  match value with
  | none => named? (looseName name)
  | some value =>
    (ValuedProperty.ofName? (looseName name)).bind (·.withValue? (looseName value))

end Contracts.Unicode
