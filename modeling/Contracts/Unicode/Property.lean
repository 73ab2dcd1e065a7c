import Contracts.Unicode.CodeSet

/-!
# Properties of characters

A property is a set of characters with names. Names are compared loosely: case, blanks, hyphens
and underscores do not count, and neither does an `is` in front.
-/

namespace Contracts.Unicode

/-- A named set of characters. -/
structure Property where
  /-- The names in lower case, without blanks, hyphens and underscores. -/
  names : List String
  /-- The characters that have the property. -/
  set : CodeSet

/-- The property of a table. -/
def Property.ofRuns (names : List String) (runs : Runs) : Property := ⟨names, .ofRuns runs⟩

/-- The members of the property of a name in a list. -/
def Property.find? (properties : List Property) (name : String) : Option CodeSet :=
  (properties.find? (·.names.contains name)).map (·.set)

/-- Write a name in lower case and without what does not count in it. In `isc` the `is` counts, as
the rest would be another name. -/
def looseName (name : String) : String :=
  let cs := name.toList
  let lower := fun c : Char => c.toLower
  let leadsIs := (cs.take 2).map lower == ['i', 's']
  let kept := ((if leadsIs then cs.drop 2 else cs).filter fun c =>
    c.toNat < 0x80 && !(c == ' ' || c == '_' || c == '-')).map lower
  String.ofList (if leadsIs && kept == ['c'] then ['i', 's', 'c'] else kept)

end Contracts.Unicode
