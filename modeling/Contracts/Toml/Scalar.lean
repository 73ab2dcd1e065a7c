import Contracts.Json.Basic

/-!
# Words of TOML text

Strings, numbers, dates and times, as they stand behind an equals sign. A date or time has no
counterpart among documents, so it becomes an object with one member of a reserved name, which
holds its normal form.

Version 1.1 of the format has two more escapes, times without seconds, and inline tables over
several lines, and it keeps line breaks inside of strings as they are.
-/

namespace Contracts.Toml

/-- A version of the format. -/
inductive Edition where
  | v10
  | v11
  deriving DecidableEq

/-- Whether a character may not stand in a text as it is. -/
def isControl (c : Char) : Bool := (c.toNat < 0x20 && c != '\t') || c.toNat == 0x7F

/-- The value of a digit in a base up to sixteen. -/
def digit? (base : Nat) (c : Char) : Option Nat :=
  let value :=
    if '0' ≤ c ∧ c ≤ '9' then some (c.toNat - '0'.toNat)
    else if 'a' ≤ c ∧ c ≤ 'f' then some (c.toNat - 'a'.toNat + 10)
    else if 'A' ≤ c ∧ c ≤ 'F' then some (c.toNat - 'A'.toNat + 10)
    else none
  value.filter (· < base)

/-- The number of some digits, if there are any and all of them are digits. -/
def number? (base : Nat) (cs : List Char) : Option Nat :=
  if cs.isEmpty then none
  else cs.foldlM (fun n c => (digit? base c).map (n * base + ·)) 0

/-- Drop the underscores, each of which must stand between two digits. -/
def dropUnderscores (base : Nat) : List Char → Option (List Char)
  | [] => none
  | [c] => if (digit? base c).isSome then some [c] else none
  | c :: '_' :: rest =>
    if (digit? base c).isSome then (dropUnderscores base rest).map (c :: ·) else none
  | c :: rest =>
    if (digit? base c).isSome then (dropUnderscores base rest).map (c :: ·) else none

namespace Text

/-- Read an escape behind its backslash: its character and the characters it takes. -/
def escape? (edition : Edition) (cs : List Char) : Option (Char × Nat) :=
  let numbered (places : Nat) : Option (Char × Nat) := do
    let digits := (cs.drop 1).take places
    guard (digits.length = places)
    let n ← number? 16 digits
    guard (n < 0xD800 ∨ (0xE000 ≤ n ∧ n < 0x110000))
    some (Char.ofNat n, places + 1)
  match cs.head? with
  | some 'b' => some ('\x08', 1)
  | some 't' => some ('\t', 1)
  | some 'n' => some ('\n', 1)
  | some 'f' => some ('\x0c', 1)
  | some 'r' => some ('\r', 1)
  | some '"' => some ('"', 1)
  | some '\\' => some ('\\', 1)
  | some 'u' => numbered 4
  | some 'U' => numbered 8
  | some 'e' => if edition = .v11 then some ('\x1b', 1) else none
  | some 'x' => if edition = .v11 then numbered 2 else none
  | _ => none

/-- Read a string behind its opening quote: its characters, last one first, and what follows the
closing quote. Only a string between double quotes has escapes. -/
def line? (edition : Edition) (quote : Char) (cs : List Char) (read : List Char) :
    Option (List Char × List Char) :=
  match cs with
  | [] => none
  | c :: rest =>
    if c = quote then some (read, rest)
    else if c = '\\' ∧ quote = '"' then
      match escape? edition rest with
      | some (e, n) => line? edition quote (rest.drop n) (e :: read)
      | none => none
    else if isControl c then none
    else line? edition quote rest (c :: read)
termination_by cs.length

/-- Drop blanks and line breaks. -/
def dropBlankLines : List Char → List Char
  | '\r' :: '\n' :: rest => dropBlankLines rest
  | c :: rest =>
    if c == ' ' || c == '\t' || c == '\n' then dropBlankLines rest else c :: rest
  | [] => []

/-- Drop the line break behind a backslash, and the blanks and line breaks behind it. -/
def continuation? (cs : List Char) : Option (List Char) :=
  let rest := cs.dropWhile fun c => c == ' ' || c == '\t'
  if rest.head? == some '\n' || rest.take 2 == ['\r', '\n'] then some (dropBlankLines rest)
  else none

/-- Read a string over several lines behind its opening quotes. Up to two quotes may stand right
before the closing ones. -/
def lines? (fuel : Nat) (edition : Edition) (quote : Char) (cs : List Char) (read : List Char) :
    Option (List Char × List Char) :=
  match fuel, cs with
  | 0, _ => none
  | _, [] => none
  | fuel + 1, c :: rest =>
    if c = quote ∧ rest.take 2 = [quote, quote] then
      let extra := ((rest.drop 2).take 2).takeWhile (· == quote)
      some (extra ++ read, rest.drop (2 + extra.length))
    else if c = '\\' ∧ quote = '"' then
      match continuation? rest with
      | some rest => lines? fuel edition quote rest read
      | none =>
        match escape? edition rest with
        | some (e, n) => lines? fuel edition quote (rest.drop n) (e :: read)
        | none => none
    else if c = '\n' then lines? fuel edition quote rest (c :: read)
    else if c = '\r' ∧ rest.head? = some '\n' then
      lines? fuel edition quote (rest.drop 1)
        (if edition = .v11 then '\n' :: '\r' :: read else '\n' :: read)
    else if isControl c then none
    else lines? fuel edition quote rest (c :: read)

/-- Drop a line break. -/
def dropNewline (cs : List Char) : List Char :=
  if cs.head? == some '\n' then cs.drop 1
  else if cs.take 2 == ['\r', '\n'] then cs.drop 2
  else cs

/-- Read a string at its opening quote: the string and what follows it. -/
def read? (edition : Edition) (cs : List Char) : Option (String × List Char) :=
  match cs.head? with
  | some quote =>
    if quote = '"' ∨ quote = '\'' then
      let result :=
        if cs.take 3 = [quote, quote, quote] then
          lines? cs.length edition quote (dropNewline (cs.drop 3)) []
        else line? edition quote (cs.drop 1) []
      result.map fun (read, rest) => (String.ofList read.reverse, rest)
    else none
  | none => none

end Text

/-- The digits of a decimal integer without sign and underscores. -/
def wholeDigits? (cs : List Char) : Option (List Char) := do
  let digits ← dropUnderscores 10 cs
  guard (digits.head? ≠ some '0' ∨ digits.length = 1)
  return digits

/-- An integer in the range that can be held; version 1.0 has signed words only. -/
def boundedInteger? (edition : Edition) (i : Int) : Option Json :=
  let limit : Int := if edition = .v10 then 9223372036854775808 else 18446744073709551616
  if -9223372036854775808 ≤ i ∧ i < limit then some (.integer i) else none

/-- Split a sign off. -/
def signed (cs : List Char) : Bool × List Char :=
  match cs with
  | '-' :: rest => (true, rest)
  | '+' :: rest => (false, rest)
  | cs => (false, cs)

/-- Read an integer. -/
def integer? (edition : Edition) (cs : List Char) : Option Json :=
  let based (base : Nat) (body : List Char) : Option Json := do
    let n ← number? base (← dropUnderscores base body)
    boundedInteger? edition n
  match cs with
  | '0' :: 'x' :: body => based 16 body
  | '0' :: 'o' :: body => based 8 body
  | '0' :: 'b' :: body => based 2 body
  | cs => do
    let (negative, body) := signed cs
    let n ← number? 10 (← wholeDigits? body)
    boundedInteger? edition (if negative then -Int.ofNat n else Int.ofNat n)

/-- Whether a number that was written with digits can be held; version 1.0 only asks whether it is
too large, not whether it is too far below zero. -/
def isHeld (edition : Edition) (x : Binary64) : Bool :=
  x.isFinite || (edition == .v10 && x == .infinite true)

/-- Read a number with a fraction, an exponent or both, or one that is not finite. -/
def real? (edition : Edition) (cs : List Char) : Option Json := do
  let (negative, body) := signed cs
  if body = ['i', 'n', 'f'] then return .real (.infinite negative)
  if body = ['n', 'a', 'n'] then return .real .nan
  let isE := fun c : Char => c == 'e' || c == 'E'
  let mantissa := body.takeWhile (!isE ·)
  let front := mantissa.takeWhile (· != '.')
  let fraction := mantissa.drop front.length
  let power := body.drop mantissa.length
  guard (!fraction.isEmpty || !power.isEmpty)
  let whole ← wholeDigits? front
  let places ← if fraction.isEmpty then some [] else dropUnderscores 10 (fraction.drop 1)
  let exponent ←
    if power.isEmpty then some (0 : Int)
    else do
      let (below, size) := signed (power.drop 1)
      let n ← number? 10 (← dropUnderscores 10 size)
      some (if below then -Int.ofNat n else Int.ofNat n)
  let coefficient ← number? 10 (whole ++ places)
  let x := Binary64.ofDecimal negative coefficient (exponent - Int.ofNat places.length)
  if isHeld edition x then return .real x else none

/-- The name of the one member that stands for a date or time. -/
def datetimeName : String := "datetime"

/-- Read a number of a fixed count of digits. -/
def fixed? (places : Nat) (cs : List Char) : Option (Nat × List Char) := do
  let front := cs.take places
  guard (front.length = places)
  return (← number? 10 front, cs.drop places)

/-- Read a given character. -/
def expect? (c : Char) (cs : List Char) : Option (List Char) :=
  if cs.head? = some c then some (cs.drop 1) else none

/-- Write a number with at least a count of digits. -/
def padded (places n : Nat) : List Char :=
  let digits := Nat.toDigits 10 n
  List.replicate (places - digits.length) '0' ++ digits

/-- The number of days of a month. -/
def daysOf (year month : Nat) : Nat :=
  if month = 2 then
    if year % 4 = 0 ∧ (year % 100 ≠ 0 ∨ year % 400 = 0) then 29 else 28
  else if [4, 6, 9, 11].contains month then 30
  else 31

/-- Read a date: its normal form and what follows. -/
def date? (cs : List Char) : Option (List Char × List Char) := do
  let (year, cs) ← fixed? 4 cs
  let (month, cs) ← fixed? 2 (← expect? '-' cs)
  let (day, cs) ← fixed? 2 (← expect? '-' cs)
  guard (1 ≤ month ∧ month ≤ 12 ∧ 1 ≤ day ∧ day ≤ daysOf year month)
  return (padded 4 year ++ '-' :: padded 2 month ++ '-' :: padded 2 day, cs)

/-- Write a fraction of a second, nine digits of it at most and no zeros at its end. -/
def fractionText (digits : List Char) : List Char :=
  match (digits.take 9).reverse.dropWhile (· == '0') with
  | [] => ['.', '0']
  | kept => '.' :: kept.reverse

/-- Read a time of day: its normal form and what follows. -/
def time? (edition : Edition) (cs : List Char) : Option (List Char × List Char) := do
  let (hour, cs) ← fixed? 2 cs
  let (minute, cs) ← fixed? 2 (← expect? ':' cs)
  guard (hour ≤ 23 ∧ minute ≤ 59)
  let front := padded 2 hour ++ ':' :: padded 2 minute
  if cs.head? ≠ some ':' then
    guard (edition = .v11)
    return (front, cs)
  let (second, cs) ← fixed? 2 (cs.drop 1)
  guard (second ≤ 60)
  let front := front ++ ':' :: padded 2 second
  if cs.head? ≠ some '.' then return (front, cs)
  let digits := (cs.drop 1).takeWhile Char.isDigit
  guard (!digits.isEmpty)
  return (front ++ fractionText digits, cs.drop (1 + digits.length))

/-- Read the offset behind a time of day, if there is one. -/
def offset? (cs : List Char) : Option (List Char × List Char) :=
  match cs with
  | [] => some ([], [])
  | c :: rest =>
    if c = 'Z' ∨ c = 'z' then some (['Z'], rest)
    else if c = '+' ∨ c = '-' then do
      let (hour, rest) ← fixed? 2 rest
      let (minute, rest) ← fixed? 2 (← expect? ':' rest)
      guard (hour ≤ 23 ∧ minute ≤ 59)
      return (c :: padded 2 hour ++ ':' :: padded 2 minute, rest)
    else none

/-- Read a date, a time of day, or both. -/
def datetime? (edition : Edition) (cs : List Char) : Option Json := do
  let text ←
    match date? cs with
    | none => do
      let (time, rest) ← time? edition cs
      guard rest.isEmpty
      some time
    | some (date, []) => some date
    | some (date, delimiter :: rest) => do
      guard (['T', 't', ' '].contains delimiter)
      let (time, rest) ← time? edition rest
      let (offset, rest) ← offset? rest
      guard rest.isEmpty
      some (date ++ 'T' :: time ++ offset)
  return .object [(datetimeName, .text (String.ofList text))]

/-- Whether a character belongs to a word without quotes. -/
def isWordChar (c : Char) : Bool :=
  c.isAlphanum || c == '+' || c == '-' || c == '_' || c == '.' || c == ':'

/-- Cut a word without quotes off. A blank may stand between a date and the time behind it. -/
def word (cs : List Char) : List Char × List Char :=
  let front := cs.takeWhile isWordChar
  let rest := cs.drop front.length
  let behind := rest.drop 1
  if front.length = 10 ∧ (date? front).isSome ∧ rest.head? = some ' ' ∧
      (fixed? 2 behind).isSome then
    let time := behind.takeWhile isWordChar
    (front ++ ' ' :: time, behind.drop time.length)
  else (front, rest)

/-- Read a word without quotes. -/
def plain? (edition : Edition) (cs : List Char) : Option Json :=
  if cs = ['t', 'r', 'u', 'e'] then some (.bool true)
  else if cs = ['f', 'a', 'l', 's', 'e'] then some (.bool false)
  else integer? edition cs <|> real? edition cs <|> datetime? edition cs

end Contracts.Toml
