import Contracts.Log.Event
import Contracts.Pattern.Regex

/-!
# Log filters

A filter is a list of directives between commas. A directive allows events up to a level,
perhaps only of one part of the program, `orders=debug`, and perhaps only events that have
a certain field. Of the directives that concern an event the most specific one decides, and an
event that none concerns is not written.

A directive may also be bound to a named span, or to the value of a span's field. No event
happens within a span here, so such directives are read but concern no event.
-/

namespace Contracts

/-- The most detailed events that a directive allows: none at all, or those up to a level. -/
abbrev LogCeiling := Option Level

namespace LogCeiling

/-- The number of a ceiling, from nothing at all to everything. -/
def rank : LogCeiling → Nat
  | none => 0
  | some level => level.rank

/-- The ceilings and their names. -/
def named : List (String × LogCeiling) :=
  [("off", none), ("error", some .error), ("warn", some .warn), ("info", some .info),
    ("debug", some .debug), ("trace", some .trace)]

/-- Read the number of a ceiling: digits, perhaps behind a plus sign. -/
def number? (cs : List Char) : Option Nat :=
  let digits := if cs.head? = some '+' then cs.drop 1 else cs
  if digits.isEmpty || !digits.all Char.isDigit then none
  else some (digits.foldl (fun n c => 10 * n + (c.toNat - '0'.toNat)) 0)

/-- Read a ceiling: its name in any case, or its number. -/
def read? (cs : List Char) : Option LogCeiling :=
  match number? cs with
  | some n => (named.find? (·.2.rank == n)).map (·.2)
  | none => (named.find? (·.1 == String.ofList (cs.map Char.toLower))).map (·.2)

end LogCeiling

/-- Why a directive of a filter is refused. -/
inductive LogFault where
  /-- The text is no directive. -/
  | form
  /-- There is no such level. -/
  | level
  /-- The pattern of a field's value cannot be read. -/
  | unreadablePattern
  /-- The pattern of a field's value asks where a word ends. -/
  | wordTest
  deriving DecidableEq

/-- The wording of a fault. -/
def LogFault.display : LogFault → String
  | .form => "invalid filter directive"
  | .level => "error parsing level filter: expected one of \"off\", \"error\", \"warn\", " ++
      "\"info\", \"debug\", \"trace\", or a number 0-5"
  | .unreadablePattern => "invalid field filter: error building NFA"
  | .wordTest => "invalid field filter: unsupported regex feature for DFAs: cannot build DFAs " ++
      "for regexes with Unicode word boundaries; switch to ASCII word boundaries, or " ++
      "heuristically enable Unicode word boundaries or use a different regex engine"

/-- A directive of a log filter. -/
structure LogDirective where
  /-- How the names of the parts begin that the directive is for; none for all parts. -/
  target : Option String := none
  /-- The span that the directive is bound to. -/
  span : Option String := none
  /-- A field that must be there, perhaps with a value. -/
  field : Option (String × Option String) := none
  ceiling : LogCeiling := some .trace
  deriving DecidableEq

namespace LogDirective

/-- Whether a directive may begin with a character, other than a bracket. -/
def mayBegin (c : Char) : Bool :=
  ['-', ':', '_'].contains c || Unicode.isAlphabetic c || Unicode.isNumeric c

/-- Drop characters up to a place that is counted in bytes. -/
def dropBytes : Nat → List Char → List Char
  | _, [] => []
  | 0, cs => cs
  | n, c :: cs => dropBytes (n - c.utf8Size) cs

/-- Take characters up to a place that is counted in bytes. -/
def takeBytes : Nat → List Char → List Char
  | _, [] => []
  | 0, _ => []
  | n, c :: cs => c :: takeBytes (n - c.utf8Size) cs

/-- The text between two places. -/
def textBetween (cs : List Char) (first behind : Nat) : List Char :=
  takeBytes (behind - first) (dropBytes first cs)

/-- Read the level from a place on; nothing there stands for everything. -/
def readLevel (d : LogDirective) (cs : List Char) (place : Nat) : Except LogFault LogDirective :=
  match dropBytes place cs with
  | [] => .ok d
  | text =>
    match LogCeiling.read? text with
    | some ceiling => .ok { d with ceiling }
    | none => .error .level

/-- Read what follows the closing bracket of a span, which leads up to a place: nothing, or an
equals sign and a level. -/
def readBehindSpan (d : LogDirective) (cs : List Char) (place : Nat) :
    List Char → Except LogFault LogDirective
  | [] => .ok d
  | '=' :: _ => d.readLevel cs (place + 1)
  | _ => .error .form

/-- Whether a text is a number: an infinity, no number at all, or digits with perhaps a point and
a power of ten, behind a sign or none. -/
def isNumber (cs : List Char) : Bool :=
  let isSign (c : Char) : Bool := c == '+' || c == '-'
  let cs := if cs.head?.any isSign then cs.drop 1 else cs
  let whole := cs.takeWhile Char.isDigit
  let rest := cs.drop whole.length
  let behindPoint := if rest.head? == some '.' then rest.drop 1 else []
  let places := behindPoint.takeWhile Char.isDigit
  let power := if rest.head? == some '.' then behindPoint.drop places.length else rest
  let size := if (power.drop 1).head?.any isSign then power.drop 2 else power.drop 1
  ["inf", "infinity", "nan"].contains (String.ofList (cs.map Char.toLower)) ||
    (!(whole.isEmpty && places.isEmpty) &&
      (power.isEmpty || ((power.head?.map Char.toLower) == some 'e' && !size.isEmpty &&
        size.all Char.isDigit)))

/-- Check the value of a field. It is a number or else a pattern, and a pattern may not ask where
a word of more than ASCII ends. -/
def checkValue (value : List Char) : Except LogFault Unit :=
  if isNumber value then .ok ()
  else match ({} : PatternOptions).normalForm (String.ofList value) with
    | .error _ => .error .unreadablePattern
    | .ok normal => if normal.asksForWords then .error .wordTest else .ok ()

/-- Read a field of a span: its name, and its value behind an equals sign. -/
def readField (cs : List Char) : Except LogFault (String × Option String) :=
  let name := cs.takeWhile (· != '=')
  match cs.drop name.length with
  | [] => if name.isEmpty then .error .form else .ok (String.ofList name, none)
  | _ :: rest => do
    let value := rest.takeWhile (· != '=')
    checkValue value
    return (String.ofList name, some (String.ofList value))

/-- Read a span behind its opening bracket, which leads up to a place, and what follows it. -/
def readSpan (d : LogDirective) (cs : List Char) (place : Nat) (rest : List Char) :
    Except LogFault LogDirective :=
  let name := rest.takeWhile fun c => c != ']' && c != '\x7b'
  let close := place + Pattern.encodedLength name
  let span := String.ofList (textBetween cs place close)
  match rest.drop name.length with
  | ']' :: rest => readBehindSpan { d with span := some span } cs (close + 1) rest
  | '\x7b' :: rest => do
    let body := rest.takeWhile (· != '\x7d')
    let bodyClose := close + 1 + Pattern.encodedLength body
    match rest.drop body.length with
    | [] => .error .form
    | _ :: rest =>
      let field ← readField (textBetween cs (close + 1) bodyClose)
      let d := { d with span := if span.isEmpty then none else some span, field := some field }
      match rest with
      | ']' :: rest => readBehindSpan d cs (bodyClose + 2) rest
      | _ => .error .form
  | _ => .error .form

/-- Drop the blanks around a directive. -/
def trim (cs : List Char) : List Char :=
  let drop := List.dropWhile fun c : Char => Unicode.isSpace c
  (drop (drop cs).reverse).reverse

/-- Read a directive. A word alone is a level if it can be one, and else the name of a part.

Where the parts of a directive lie is found out without the blanks around it, but they are cut out
of the text with them, so that a blank in front moves all parts. -/
def read (cs : List Char) : Except LogFault LogDirective :=
  match trim cs with
  | [] => .error .form
  | '[' :: rest => readSpan {} cs 1 rest
  | c :: rest =>
    if !mayBegin c then .error .form
    else
      let word := (c :: rest).takeWhile fun c => c != '=' && c != '['
      let close := Pattern.encodedLength word
      let target := some (String.ofList (textBetween cs 0 close))
      match (c :: rest).drop word.length with
      | [] =>
        match LogCeiling.read? cs with
        | some ceiling => .ok { ceiling }
        | none => .ok { target := some (String.ofList cs) }
      | '=' :: _ => readLevel { target } cs (close + 1)
      | _ :: rest => readSpan { target } cs (close + 1) rest

/-- Whether an event has a field of a name, the message counting as one. -/
def hasField (e : Event) (name : String) : Bool :=
  name == "message" || e.fields.any (·.1 == name)

/-- Whether a directive is bound to spans. -/
def isBound (d : LogDirective) : Bool :=
  d.span.isSome || d.field.any (·.2.isSome)

/-- Whether a directive concerns an event. -/
def concerns (d : LogDirective) (e : Event) : Bool :=
  !d.isBound && d.target.all (fun t => t.toList.isPrefixOf e.target.toList) &&
    d.field.all fun f => hasField e f.1

/-- Whether a directive gives way to another one that concerns the same event. The longer name
of a part is more specific, then the directive with a field, then the later one. -/
def givesWay (d d' : LogDirective) : Bool :=
  let part (d : LogDirective) : Nat := d.target.elim 0 fun t => t.utf8ByteSize + 1
  let named : Bool :=
    match d.field, d'.field with
    | some (a, _), some (b, _) => !(b < a)
    | some _, none => false
    | none, _ => true
  part d < part d' || (part d == part d' && named)

end LogDirective

/-- A log filter. -/
abbrev LogFilter := List LogDirective

namespace LogFilter

/-- Read a filter. Nothing between two commas is passed over. -/
def read (text : String) : Except LogFault LogFilter :=
  ((text.splitOn ",").filter (!·.isEmpty)).mapM fun piece => LogDirective.read piece.toList

/-- The directive that decides on an event. -/
def deciding? (filter : LogFilter) (e : Event) : Option LogDirective :=
  (filter.filter (·.concerns e)).foldl
    (fun best d =>
      match best with
      | none => some d
      | some b => if b.givesWay d then some d else best)
    none

/-- Whether an event is written. -/
def allows (filter : LogFilter) (e : Event) : Bool :=
  match filter.deciding? e with
  | some d => e.level.rank ≤ d.ceiling.rank
  | none => false

end LogFilter

end Contracts
