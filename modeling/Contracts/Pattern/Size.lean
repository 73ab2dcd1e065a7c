import Contracts.Pattern.Normal
import Std.Data.HashMap

/-!
# The size of a compiled pattern

A pattern is compiled to two automata over the bytes of a text, one that reads forward and one
that reads backward, and neither may grow beyond a limit. The automata themselves are not needed
to match, so only their states are numbered and their bytes counted here.

A repetition is written out as often as it has to be. The characters of a set are encoded in UTF-8
and compiled to byte ranges, where states that lead to the same places are shared. What is shared
is remembered in tables of a fixed number of slots: a newer entry pushes out an older one of the
same slot, and then a state is made again.
-/

namespace Contracts.Pattern

open Unicode (CodeSet)

/-- The largest number of bytes of an automaton. -/
def largestSize : Nat := 10 * 1024 * 1024

/-- The states made so far, and the bytes that they take. -/
structure Tally where
  states : Nat
  bytes : Nat

/-- A step of compilation, which fails when the automaton grows too large. -/
abbrev Compilation := StateT Tally (Except Fault)

/-- Which way an automaton reads. -/
inductive Direction where
  | forward
  | backward
  deriving DecidableEq

namespace Compilation

/-- Take up some bytes. -/
def take (bytes : Nat) : Compilation Unit := do
  let tally ← get
  let total := tally.bytes + bytes
  if largestSize < total then throw .tooLarge
  set { tally with bytes := total }

/-- Make a state with a number of transitions by byte range and of transitions by nothing; its
number. -/
def state (byteRanges jumps : Nat) : Compilation Nat := do
  take (32 + 8 * byteRanges + 4 * jumps)
  modifyGet fun tally => (tally.states, { tally with states := tally.states + 1 })

/-- Do a step a number of times. -/
def times (step : Compilation Unit) : Nat → Compilation Unit
  | 0 => return
  | n + 1 => do
    step
    times step n

end Compilation

open Compilation

/-- A range of bytes, first and last included. -/
abbrev ByteRange := Nat × Nat

/-- The bytes of a code point in UTF-8. -/
def encode (c : Nat) : List Nat :=
  if c < 0x80 then [c]
  else if c < 0x800 then [0xC0 + c / 64, 0x80 + c % 64]
  else if c < 0x10000 then [0xE0 + c / 4096, 0x80 + c / 64 % 64, 0x80 + c % 64]
  else [0xF0 + c / 262144, 0x80 + c / 4096 % 64, 0x80 + c / 64 % 64, 0x80 + c % 64]

/-- Where to cut a range of code points so that the bytes of the first part vary independently of
each other. -/
def cut? (first last : Nat) : Option Nat :=
  let byLength := [0x7F, 0x7FF, 0xFFFF].find? fun m => first ≤ m && m < last
  let byBlock := [64, 4096, 262144].findSome? fun size =>
    if last < 0x80 || first / size == last / size then none
    else if first % size != 0 then some (first / size * size + size - 1)
    else if last % size != size - 1 then some (last / size * size - 1)
    else none
  (byLength <|> byBlock).filter fun m => first ≤ m && m < last

/-- A cut is inside of the range. -/
theorem le_and_lt_of_cut? {first last m : Nat} (h : cut? first last = some m) :
    first ≤ m ∧ m < last := by
  simp only [cut?, Option.filter_eq_some_iff, Bool.and_eq_true, decide_eq_true_eq] at h
  exact h.2

/-- The encodings of a range of code points, as sequences of byte ranges in ascending order. -/
def byteSequences (first last : Nat) : List (List ByteRange) :=
  match _h : cut? first last with
  | some m => byteSequences first m ++ byteSequences (m + 1) last
  | none => [(encode first).zip (encode last)]
termination_by last - first
decreasing_by all_goals have := le_and_lt_of_cut? _h; omega

/-- The encodings of a set. -/
def CodeSet.byteSequences (s : CodeSet) : List (List ByteRange) :=
  s.ranges.flatMap fun (first, last) => Pattern.byteSequences first last

/-- The slot that some numbers have in a table. -/
def slot (slots : Nat) (numbers : List Nat) : Nat :=
  (numbers.foldl (fun h n => (h ^^^ n.toUInt64) * 1099511628211)
    (14695981039346656037 : UInt64)).toNat % slots

/-- The transitions of a state by byte range, each with the state that it leads to. -/
abbrev Transitions := List (ByteRange × Nat)

/-- A state that still takes in transitions, the last of which leads to the state that is being
made behind it. -/
structure OpenState where
  settled : Transitions
  last : Option ByteRange

/-- The transitions of a state once it is known where the last one leads. -/
def OpenState.close (s : OpenState) (next : Nat) : Transitions :=
  match s.last with
  | some range => s.settled ++ [(range, next)]
  | none => s.settled

/-- A table of states by their slots. -/
abbrev StateTable := Std.HashMap Nat (Transitions × Nat)

/-- A step of compiling a set forward. -/
abbrev Sharing := StateT StateTable Compilation

/-- The number of slots for states of a set that is compiled forward. -/
def forwardSlots : Nat := 10000

/-- The state with some transitions, made only if it is not remembered. -/
def share (transitions : Transitions) : Sharing Nat := do
  let key := slot forwardSlots <| transitions.flatMap fun ((first, last), next) =>
    [first, last, next]
  let known := ((← get)[key]?).filter fun (t, _) => t == transitions
  match known with
  | some (_, id) => return id
  | none =>
    let id ← state transitions.length 0
    modify (·.insert key (transitions, id))
    return id

/-- Close some states, each of which leads to the next one and the last one to `target`. -/
def closeAll (target : Nat) : List OpenState → Sharing Nat
  | [] => return target
  | s :: behind => do
    let next ← closeAll target behind
    share (s.close next)

/-- Add a sequence of byte ranges. What it has in common with the sequence before stays open. -/
def addSequence (target : Nat) : List ByteRange → List OpenState → Sharing (List OpenState)
  | range :: ranges, s :: behind => do
    if s.last = some range then
      return s :: (← addSequence target ranges behind)
    else
      let next ← closeAll target behind
      return ⟨s.close next, some range⟩ :: ranges.map fun r => ⟨[], some r⟩
  | _, states => return states

/-- Compile a set to read forward. -/
def compileForward (s : CodeSet) : Compilation Unit := do
  let target ← state 0 0
  let add : Sharing Unit := do
    let states ← (CodeSet.byteSequences s).foldlM (fun states ranges =>
      addSequence target ranges states) [⟨[], none⟩]
    let _ ← closeAll target states
  let _ ← add.run ∅

/-- The number of slots for states of a set that is compiled backward. -/
def backwardSlots : Nat := 1000

/-- A table of states that lead on by one byte range, by their slots. -/
abbrev SuffixTable := Std.HashMap Nat ((Nat × ByteRange) × Nat)

/-- Add a state that leads to `next` by a range of bytes, unless it is remembered. -/
def addSuffix (next : Nat) (range : ByteRange) : StateT SuffixTable Compilation Nat := do
  let key := slot backwardSlots [next, range.1, range.2]
  let known := ((← get)[key]?).filter fun (k, _) => k == (next, range)
  match known with
  | some (_, id) => return id
  | none =>
    let id ← state 0 0
    modify (·.insert key ((next, range), id))
    return id

/-- Compile a set to read backward. -/
def compileBackward (s : CodeSet) : Compilation Unit := do
  let _ ← state 0 0
  let target ← state 0 0
  let add : StateT SuffixTable Compilation Unit :=
    (CodeSet.byteSequences s).forM fun ranges => do
      let _ ← ranges.foldlM addSuffix target
      StateT.lift (take 4)
  let _ ← add.run ∅

/-- Compile a set. One of ASCII characters is a single step. -/
def compileSet (direction : Direction) (s : CodeSet) : Compilation Unit := do
  if s.edges.all (· ≤ 0x80) then
    let _ ← state 0 0
    let _ ← state s.ranges.length 0
  else
    match direction with
    | .forward => compileForward s
    | .backward => compileBackward s

/-- What is left of a text behind a byte that it starts with. -/
def behind? (byte : UInt8) : List UInt8 → Option (List UInt8)
  | b :: rest => if b = byte then some rest else none
  | [] => none

/-- Cut texts at those that are over. A text that is over again before others have gone on is not
told from the one before. -/
def cutAtEnds (texts : List (List UInt8)) : List (List (List UInt8)) :=
  let add := fun (cuts : List (List (List UInt8))) (text : List UInt8) =>
    match cuts with
    | active :: done =>
      if text.isEmpty then
        if cuts.all (·.isEmpty) && !done.isEmpty then cuts else [] :: cuts
      else (text :: active) :: done
    | [] => [[text]]
  ((texts.foldl add [[]]).map List.reverse).reverse

/-- Compile texts that are branches of a choice to one tree, of which no branch is longer than
`depth`; what is common to the starts of texts is compiled once. A text that ends another one's way
does so by a transition of its own, and earlier texts keep their precedence. -/
def compileTree : Nat → List (List UInt8) → Compilation Unit
  | 0, _ => return
  | depth + 1, texts => do
    if texts.all (·.isEmpty) then return
    let cuts := cutAtEnds texts
    cuts.forM fun active => do
      let bytes := (active.filterMap (·.head?)).eraseDups
      bytes.forM fun byte => compileTree depth (active.filterMap (behind? byte))
      match bytes with
      | [] => return
      | [_] => let _ ← state 0 0
      | _ => let _ ← state bytes.length 0
    let _ ← state 0 ((cuts.filter (!·.isEmpty)).length + (cuts.length - 1))

/-- The texts that an expression is a choice of, in the order in which their bytes are read. -/
def Normal.texts? (direction : Direction) (branches : List Normal) :
    Option (List (List UInt8)) :=
  branches.mapM fun
    | .text chars =>
      let bytes := (String.ofList chars).toUTF8.toList
      some (if direction = .forward then bytes else bytes.reverse)
    | _ => none

mutual

/-- Compile an expression in normal form. -/
def Normal.compile (direction : Direction) : Normal → Compilation Unit
  | .empty | .test _ => do let _ ← state 0 0
  | .text chars => times (do let _ ← state 0 0) (encodedLength chars)
  | .set s => compileSet direction s
  | .repetition body rounds =>
    match rounds.min, rounds.max with
    | 0, some 1 => do
      let _ ← state 0 2
      body.compile direction
      let _ ← state 0 0
    | 0, none => do
      if (body.minLength.getD 0) = 0 then
        body.compile direction
        let _ ← state 0 2
        let _ ← state 0 2
        let _ ← state 0 0
      else
        let _ ← state 0 2
        body.compile direction
    | n, none => do
      times (body.compile direction) n
      let _ ← state 0 2
    | n, some m => do
      if n = 0 then
        let _ ← state 0 0
      times (body.compile direction) n
      if n ≠ m then
        let _ ← state 0 0
        times (do
          let _ ← state 0 2
          body.compile direction) (m - n)
  | .capture body => do
    if direction = .forward then
      let _ ← state 0 0
      body.compile direction
      let _ ← state 0 0
    else body.compile direction
  | .sequence parts =>
    match direction with
    | .forward => Normal.compileParts direction parts
    | .backward => Normal.compilePartsReversed direction parts
  | .choice branches =>
    match Normal.texts? direction branches with
    | some texts => do
      let _ ← state 0 0
      compileTree ((texts.map List.length).foldl Nat.max 0 + 1) texts
    | none => Normal.compileBranches direction branches

/-- Compile parts one after the other. -/
def Normal.compileParts (direction : Direction) : List Normal → Compilation Unit
  | [] => return
  | part :: rest => do
    part.compile direction
    Normal.compileParts direction rest

/-- Compile parts one after the other, the last one first. -/
def Normal.compilePartsReversed (direction : Direction) : List Normal → Compilation Unit
  | [] => return
  | part :: rest => do
    Normal.compilePartsReversed direction rest
    part.compile direction

/-- Compile the branches of a choice; the state that leads to them comes behind the second. -/
def Normal.compileBranches (direction : Direction) : List Normal → Compilation Unit
  | [] => return
  | [branch] => branch.compile direction
  | first :: second :: rest => do
    first.compile direction
    second.compile direction
    let _ ← state 0 (rest.length + 2)
    let _ ← state 0 0
    Normal.compileParts direction rest

end

/-- Compile the start of an automaton that may begin anywhere, or at one place only. -/
def compileStart (anchored : Bool) : Compilation Unit := do
  let _ ← state 0 (if anchored then 0 else 2)
  if !anchored then
    let _ ← state 0 0
    let _ ← state 1 0

/-- Compile an expression to an automaton. -/
def Normal.compileAutomaton (n : Normal) : Direction → Compilation Unit
  | .forward => do
    compileStart n.startsText
    Normal.compile .forward (.capture n)
    let _ ← state 0 0
  | .backward => do
    compileStart n.endsText
    n.compile .backward
    let _ ← state 0 0

/-- The number of branches from which on a choice of texts is not compiled to an automaton. -/
def manyTexts : Nat := 3000

/-- Whether an expression is a choice of many texts. -/
def Normal.isManyTexts : Normal → Bool
  | .choice branches =>
    manyTexts ≤ branches.length && (Normal.texts? .forward branches).isSome
  | _ => false

/-- Check that a pattern is not too large to be compiled. -/
def Normal.checkSize (n : Normal) : Except Fault Unit := do
  if !n.isManyTexts then
    for direction in [Direction.forward, .backward] do
      let _ ← (n.compileAutomaton direction).run ⟨0, 0⟩

end Contracts.Pattern
