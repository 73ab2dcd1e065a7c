import Contracts.Pattern.Expression
import Contracts.Unicode.Character

/-!
# Reading patterns

A pattern is read from left to right. In verbose mode blanks count for nothing, and neither does
what follows a number sign up to the end of the line; the mode lasts to the end of the group in
which it is switched on. Outside sets a closing bracket or brace that closes nothing stands for
itself.
-/

namespace Contracts.Pattern

/-- What is left of the pattern, and what has to be known of the part before. -/
structure Cursor where
  rest : List Char
  /-- Whether blanks and comments are passed over. -/
  verbose : Bool
  /-- The names of the groups so far. -/
  names : List String

/-- A step of reading. -/
abbrev Reader := StateT Cursor (Except Fault)

namespace Reader

mutual

/-- Pass over blanks and comments. -/
def dropBlank : List Char → List Char
  | [] => []
  | c :: rest =>
    if Unicode.isSpace c then dropBlank rest
    else if c = '#' then dropComment rest
    else c :: rest

/-- Pass over the rest of a comment. -/
def dropComment : List Char → List Char
  | [] => []
  | c :: rest => if c = '\n' then dropBlank rest else dropComment rest

end

/-- Pass over blanks and comments in verbose mode. -/
def skip : Reader Unit :=
  modify fun s => if s.verbose then { s with rest := dropBlank s.rest } else s

/-- The next character. -/
def peek : Reader (Option Char) := return (← get).rest.head?

/-- Pass over some characters. -/
def advance (n : Nat) : Reader Unit := modify fun s => { s with rest := s.rest.drop n }

/-- Pass over a character and the blanks behind it. -/
def advanceSkip : Reader Unit := do
  advance 1
  skip

/-- The next character, or a fault at the end of the pattern. -/
def need (fault : Fault) : Reader Char := do
  match ← peek with
  | some c => return c
  | none => throw fault

/-- Pass over the given characters if they come next. -/
def take? (text : List Char) : Reader Bool := do
  let s ← get
  if text.isPrefixOf s.rest then
    advance text.length
    return true
  return false

/-- The value of a hexadecimal digit. -/
def hexDigit? (c : Char) : Option Nat :=
  if '0' ≤ c ∧ c ≤ '9' then some (c.toNat - '0'.toNat)
  else if 'a' ≤ c ∧ c ≤ 'f' then some (c.toNat - 'a'.toNat + 10)
  else if 'A' ≤ c ∧ c ≤ 'F' then some (c.toNat - 'A'.toNat + 10)
  else none

/-- The character of a code point. -/
def character (n : Nat) : Reader Char :=
  if n < 0xD800 ∨ (0xE000 ≤ n ∧ n < 0x110000) then return Char.ofNat n else throw .codePoint

/-- Read a fixed number of hexadecimal digits. -/
def hexDigits : Nat → Nat → Reader Nat
  | 0, value => return value
  | n + 1, value => do
    let some d := hexDigit? (← need .unfinished) | throw .codePoint
    advanceSkip
    hexDigits n (value * 16 + d)

/-- Read hexadecimal digits up to the closing brace. -/
def hexBraced (fuel : Nat) (value : Option Nat) : Reader Nat := do
  match fuel with
  | 0 => throw .unfinished
  | fuel + 1 =>
    let c ← need .unfinished
    if c = '\x7d' then
      advanceSkip
      match value with
      | some v => return v
      | none => throw .codePoint
    else
      let some d := hexDigit? c | throw .codePoint
      advanceSkip
      hexBraced fuel (some (value.getD 0 * 16 + d))

/-- Read an escape by code point behind its backslash. -/
def hexEscape (letter : Char) : Reader Literal := do
  advanceSkip
  if (← need .unfinished) = '\x7b' then
    advanceSkip
    let value ← hexBraced ((← get).rest.length + 1) none
    return ⟨← character value, false⟩
  else
    let places := if letter = 'x' then 2 else if letter = 'u' then 4 else 8
    let value ← hexDigits places 0
    return ⟨← character value, letter == 'x'⟩

/-- Read the name of a property up to the closing brace; the characters, last one first. -/
def bracedName (fuel : Nat) (read : List Char) : Reader (List Char) := do
  match fuel with
  | 0 => throw .unfinished
  | fuel + 1 =>
    let c ← need .unfinished
    if c = '\x7d' then
      advance 1
      return read
    else
      advanceSkip
      bracedName fuel (c :: read)

/-- Cut a text at the first of a separator. -/
def cutAt (separator : List Char) : List Char → Option (List Char × List Char)
  | [] => none
  | c :: rest =>
    if separator.isPrefixOf (c :: rest) then some ([], (c :: rest).drop separator.length)
    else (cutAt separator rest).map fun (front, back) => (c :: front, back)

/-- Read a property behind its letter. -/
def property (negated : Bool) : Reader CharSet := do
  advanceSkip
  let c ← need .unfinished
  if c = '\x7b' then
    advanceSkip
    let name := (← bracedName ((← get).rest.length + 1) []).reverse
    match cutAt ['!', '='] name with
    | some (n, v) => return .property (!negated) (String.ofList n) (some (String.ofList v))
    | none =>
      match (cutAt [':'] name).orElse fun _ => cutAt ['='] name with
      | some (n, v) => return .property negated (String.ofList n) (some (String.ofList v))
      | none => return .property negated (String.ofList name) none
  else
    if c = '\\' then throw .property
    advanceSkip
    return .property negated (String.singleton c) none

/-- The characters that have a meaning of their own somewhere in a pattern. -/
def isMeta (c : Char) : Bool :=
  ['\\', '.', '+', '*', '?', '(', ')', '|', '[', ']', '\x7b', '\x7d', '^', '$', '#', '&', '-',
    '~'].contains c

/-- Whether a character may be escaped although it has no meaning of its own. -/
def isEscapable (c : Char) : Bool :=
  isMeta c || (c.toNat < 0x80 && !c.isAlphanum && c != '<' && c != '>')

/-- The character of an escape by letter. -/
def control? : Char → Option Char
  | 'a' => some '\x07'
  | 'f' => some '\x0c'
  | 't' => some '\t'
  | 'n' => some '\n'
  | 'r' => some '\r'
  | 'v' => some '\x0b'
  | _ => none

/-- Read letters and hyphens; the characters, last one first. -/
def boundaryName (fuel : Nat) (read : List Char) : Reader (List Char) := do
  match fuel with
  | 0 => return read
  | fuel + 1 =>
    match ← peek with
    | some c =>
      if c.isAlpha || c = '-' then
        advanceSkip
        boundaryName fuel (c :: read)
      else return read
    | none => return read

/-- Read the kind of a word boundary, if one stands in braces behind it. -/
def boundary : Reader WordTest := do
  if (← peek) ≠ some '\x7b' then return .boundary
  let start ← get
  advanceSkip
  let c ← need .unfinished
  if !(c.isAlpha || c = '-') then
    set start
    return .boundary
  let name := (← boundaryName start.rest.length []).reverse
  if (← peek) ≠ some '\x7d' then throw .escape
  advance 1
  match String.ofList name with
  | "start" => return .wordStart
  | "end" => return .wordEnd
  | "start-half" => return .startHalf
  | "end-half" => return .endHalf
  | _ => throw .escape

/-- Read an escape, the backslash next. -/
def escape : Reader Expression := do
  advance 1
  let c ← need .unfinished
  if c.isDigit then throw .backReference
  match c with
  | 'x' | 'u' | 'U' => return .literal (← hexEscape c)
  | 'p' => return .set (← property false)
  | 'P' => return .set (← property true)
  | _ =>
    advance 1
    match c with
    | 'd' => return .set (.shorthand false .digit)
    | 'D' => return .set (.shorthand true .digit)
    | 's' => return .set (.shorthand false .space)
    | 'S' => return .set (.shorthand true .space)
    | 'w' => return .set (.shorthand false .word)
    | 'W' => return .set (.shorthand true .word)
    | 'A' => return .condition .textStart
    | 'z' => return .condition .textEnd
    | 'b' => return .condition (.word (← boundary))
    | 'B' => return .condition (.word .noBoundary)
    | '<' => return .condition (.word .wordStart)
    | '>' => return .condition (.word .wordEnd)
    | c =>
      if isEscapable c then return .literal ⟨c, false⟩
      match control? c with
      | some control => return .literal ⟨control, false⟩
      | none => throw .escape

/-- The names of the ASCII classes. -/
def asciiNames : List String :=
  ["alnum", "alpha", "ascii", "blank", "cntrl", "digit", "graph", "lower", "print", "punct",
    "space", "upper", "word", "xdigit"]

/-- Read a named ASCII class inside a set, if one comes next. -/
def asciiClass? : Reader (Option CharSet) := do
  let start ← get
  match start.rest with
  | '[' :: ':' :: rest =>
    let negated := rest.head? == some '^'
    let body := if negated then rest.drop 1 else rest
    let name := body.takeWhile (· != ':')
    let text := String.ofList name
    if (body.drop name.length).take 2 = [':', ']'] ∧ asciiNames.contains text then
      set { start with rest := body.drop (name.length + 2) }
      return some (.ascii negated text)
    return none
  | _ => return none

/-- Read one item of a set, a character or an escape. -/
def setItem : Reader Expression := do
  let c ← need .unclosedSet
  if c = '\\' then escape
  else
    advance 1
    return .literal ⟨c, false⟩

/-- The character that comes behind the next one and the blanks there. A number sign is passed over
like a blank, but what follows it is looked at. -/
def peekBehind : Reader (Option Char) := do
  let s ← get
  let rest := s.rest.drop 1
  if !s.verbose then return rest.head?
  match rest.dropWhile Unicode.isSpace with
  | '#' :: comment => return (comment.dropWhile Unicode.isSpace).head?
  | text => return text.head?

/-- Read one item of a set or a range. -/
def setRange : Reader CharSet := do
  let first ← setItem
  skip
  let c ← need .unclosedSet
  let next ← peekBehind
  if c ≠ '-' || next = some ']' || next = some '-' then
    match first with
    | .literal l => return .literal l
    | .set s => return s
    | _ => throw .escape
  else
    advanceSkip
    let last ← setItem
    match first, last with
    | .literal a, .literal b =>
      if a.char ≤ b.char then return .range a b else throw .range
    | _, _ => throw .range

/-- Count and pass over hyphens at the start of a set. -/
def leadingHyphens (fuel : Nat) (read : List CharSet) : Reader (List CharSet) := do
  match fuel with
  | 0 => return read
  | fuel + 1 =>
    if (← need .unclosedSet) = '-' then
      advanceSkip
      leadingHyphens fuel (.literal ⟨'-', false⟩ :: read)
    else return read

/-- A set operation that waits for its right side. -/
abbrev Waiting := Option (SetOperation × CharSet)

/-- Give an operation its right side. -/
def Waiting.close (waiting : Waiting) (items : List CharSet) : CharSet :=
  let right := CharSet.ofItems items.reverse
  match waiting with
  | some (operation, left) => .combine operation left right
  | none => right

/-- Read the operator that comes next in a set. -/
def setOperation? : Reader (Option SetOperation) := do
  if ← take? ['&', '&'] then return some .intersection
  if ← take? ['-', '-'] then return some .difference
  if ← take? ['~', '~'] then return some .symmetricDifference
  return none

mutual

/-- Read a set, its opening bracket next. -/
def set (fuel : Nat) : Reader CharSet := do
  match fuel with
  | 0 => throw .unclosedSet
  | fuel + 1 =>
    advanceSkip
    let negated := (← need .unclosedSet) == '^'
    if negated then advanceSkip
    let hyphens ← leadingHyphens (← get).rest.length []
    if hyphens.isEmpty && (← need .unclosedSet) = ']' then
      advanceSkip
      return .bracket negated (← setItems fuel none [.literal ⟨']', false⟩])
    else
      return .bracket negated (← setItems fuel none hyphens)

/-- Read the items of a set up to its closing bracket; the items so far, last one first. -/
def setItems (fuel : Nat) (waiting : Waiting) (items : List CharSet) : Reader CharSet := do
  match fuel with
  | 0 => throw .unclosedSet
  | fuel + 1 =>
    skip
    let c ← need .unclosedSet
    if c = ']' then
      advance 1
      return waiting.close items
    else if c = '[' then
      match ← asciiClass? with
      | some item => setItems fuel waiting (item :: items)
      | none => setItems fuel waiting ((← set fuel) :: items)
    else
      match ← setOperation? with
      | some operation => setItems fuel (some (operation, waiting.close items)) []
      | none => setItems fuel waiting ((← setRange) :: items)

end

/-- Whether a character may stand in the name of a group. -/
def isNameChar (first : Bool) (c : Char) : Bool :=
  if first then c = '_' || Unicode.isAlphabetic c
  else c = '_' || c = '.' || c = '[' || c = ']' || Unicode.isAlphabetic c ||
    Unicode.isNumeric c

/-- Read the name of a group and the bracket behind it. -/
def groupName : Reader Unit := do
  let s ← get
  let name := s.rest.takeWhile (· != '>')
  if name.length = s.rest.length then throw .groupName
  let text := String.ofList name
  let wellFormed := match name with
    | [] => false
    | c :: rest => isNameChar true c && rest.all (isNameChar false)
  if !wellFormed || s.names.contains text then throw .groupName
  StateT.set { s with rest := s.rest.drop (name.length + 1), names := text :: s.names }

/-- Read the letters of modes up to a colon or a closing bracket. -/
def modes (fuel : Nat) (on : Bool) (bare : Bool) (read : Switches) : Reader Switches := do
  match fuel with
  | 0 => throw .unfinished
  | fuel + 1 =>
    let c ← need .unfinished
    if c = ':' || c = ')' then
      if bare then throw .mode
      return read.reverse
    else if c = '-' then
      if !on then throw .mode
      advance 1
      modes fuel false true read
    else
      let some mode := Mode.ofLetter? c | throw .mode
      if read.any (·.1 == mode) then throw .mode
      advance 1
      modes fuel on false ((mode, on) :: read)

/-- The start of a group. -/
inductive Opening where
  /-- Modes for the rest of the group around. -/
  | switches (modes : Switches)
  /-- A group, with modes of its own, which may capture what it matches. -/
  | group (modes : Switches) (captures : Bool)

/-- Read the start of a group, its opening bracket next. -/
def opening : Reader Opening := do
  advanceSkip
  for look in [['?', '='], ['?', '!'], ['?', '<', '='], ['?', '<', '!']] do
    if ← take? look then throw .lookAround
  if ← take? ['?', 'P', '<'] then
    groupName
    return .group [] true
  if ← take? ['?', '<'] then
    groupName
    return .group [] true
  if ← take? ['?'] then
    let switches ← modes ((← get).rest.length + 1) true false []
    let c ← need .unfinished
    advance 1
    if c = ')' then
      if switches.isEmpty then throw .nothingToRepeat
      return .switches switches
    return .group switches false
  return .group [] true

/-- Pass over blanks of any mode. -/
def dropSpace : Reader Unit :=
  modify fun s => { s with rest := s.rest.dropWhile (Unicode.isSpace) }

/-- Read digits with blanks between them in verbose mode; the digits, last one first. -/
def decimalDigits (fuel : Nat) (read : List Char) : Reader (List Char) := do
  match fuel with
  | 0 => return read
  | fuel + 1 =>
    match ← peek with
    | some c =>
      if c.isDigit then
        advanceSkip
        decimalDigits fuel (c :: read)
      else return read
    | none => return read

/-- Read a count below `2 ^ 32`, if there is one. -/
def count? : Reader (Option Nat) := do
  dropSpace
  let digits := (← decimalDigits (← get).rest.length []).reverse
  dropSpace
  skip
  if digits.isEmpty then return none
  let n := digits.foldl (fun n c => n * 10 + (c.toNat - '0'.toNat)) 0
  if n < 4294967296 then return some n else throw .count

/-- Read the counts of a repetition, the opening brace next. -/
def counts : Reader Repeat := do
  advanceSkip
  let _ ← need .count
  let start ← count?
  let c ← need .count
  let range ←
    if c = ',' then
      advanceSkip
      if (← need .count) = '\x7d' then
        let some n := start | throw Fault.count
        pure (n, none)
      else
        let some n := start | throw Fault.count
        let some m := ← count? | throw Fault.count
        pure (n, some m)
    else
      let some n := start | throw Fault.count
      pure (n, some n)
  if (← need .count) ≠ '\x7d' then throw .count
  advanceSkip
  let shortest ← take? ['?']
  let (min, max) := range
  match max with
  | some m => if min ≤ m then return ⟨min, max, shortest⟩ else throw .count
  | none => return ⟨min, none, shortest⟩

/-- The last of the parts read so far, which are given last one first, and those before it. -/
def lastPart : List Expression → Reader (Expression × List Expression)
  | [] | .empty :: _ | .switches _ :: _ => throw .nothingToRepeat
  | part :: rest => return (part, rest)

/-- Read a repetition by sign. -/
def repeatSign (parts : List Expression) (min : Nat) (max : Option Nat) :
    Reader (List Expression) := do
  let (part, rest) ← lastPart parts
  advance 1
  let shortest ← take? ['?']
  return .repetition part ⟨min, max, shortest⟩ :: rest

/-- Read a condition, a dot, an escape or a character that stands for itself. -/
def primitive (c : Char) : Reader Expression := do
  if c = '\\' then escape
  else
    advance 1
    match c with
    | '.' => return .dot
    | '^' => return .condition .lineStart
    | '$' => return .condition .lineEnd
    | c => return .literal ⟨c, false⟩

mutual

/-- Read branches up to the end of the group or of the pattern. -/
def branches (fuel : Nat) (read : List Expression) : Reader Expression := do
  match fuel with
  | 0 => throw .tooDeep
  | fuel + 1 =>
    let branch ← parts fuel []
    if (← peek) = some '|' then
      advance 1
      branches fuel (branch :: read)
    else
      match read with
      | [] => return branch
      | _ => return .choice (branch :: read).reverse

/-- Read the parts of a branch; the parts so far, last one first. -/
def parts (fuel : Nat) (read : List Expression) : Reader Expression := do
  match fuel with
  | 0 => throw .tooDeep
  | fuel + 1 =>
    skip
    match ← peek with
    | none | some '|' | some ')' => return .ofParts read.reverse
    | some '(' =>
      let outer := (← get).verbose
      match ← opening with
      | .switches modes =>
        let verbose := (modes.find? (·.1 == .verbose)).map (·.2)
        modify fun s => { s with verbose := verbose.getD s.verbose }
        parts fuel (.switches modes :: read)
      | .group modes captures =>
        let verbose := (modes.find? (·.1 == .verbose)).map (·.2)
        modify fun s => { s with verbose := verbose.getD s.verbose }
        let body ← branches fuel []
        if (← peek) ≠ some ')' then throw .unclosedGroup
        modify fun s => { s with verbose := outer }
        advance 1
        parts fuel (.group modes captures body :: read)
    | some '[' => parts fuel (.set (← set fuel) :: read)
    | some '?' => parts fuel (← repeatSign read 0 (some 1))
    | some '*' => parts fuel (← repeatSign read 0 none)
    | some '+' => parts fuel (← repeatSign read 1 none)
    | some '\x7b' =>
      let (part, rest) ← lastPart read
      parts fuel (.repetition part (← counts) :: rest)
    | some c => parts fuel ((← primitive c) :: read)

end

end Reader

/-- The deepest nesting of an expression. -/
def deepest : Nat := 250

/-- Read a whole pattern. -/
def Expression.read (source : String) (verbose : Bool) : Except Fault Expression := do
  let text := source.toList
  let (body, s) ← (Reader.branches (2 * text.length + 4) []).run ⟨text, verbose, []⟩
  if s.rest ≠ [] then throw .unopenedGroup
  if body.depth > deepest then throw .tooDeep
  return body

end Contracts.Pattern
