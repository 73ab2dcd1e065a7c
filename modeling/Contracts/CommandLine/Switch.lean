/-!
# Switches

The words of a command line are read from left to right. A switch has a long name behind two
dashes and perhaps a letter behind one; its value stands behind an equals sign, right behind the
letter, or in the next word, which then must not look like a switch. A word without a dash, a
single dash, and every word behind two dashes alone is an operand. No switch may be given twice.
-/

namespace Contracts

/-- Why the words of a command line lead to no command. -/
inductive Refusal where
  /-- The words are not used as they should be. -/
  | misuse
  /-- The words ask for help. -/
  | help
  /-- Nothing is asked for. -/
  | nothing
  /-- The words ask for the version. -/
  | version
  deriving DecidableEq

/-- What a switch does. -/
inductive SwitchAction (σ : Type) where
  /-- Put the value of the switch into the draft, if it is a value that suits. -/
  | value (put : String → σ → Option σ)
  /-- Change the draft. -/
  | plain (change : σ → σ)
  /-- End the reading. -/
  | ends (refusal : Refusal)

/-- A switch that changes a draft of type `σ`. -/
structure Switch (σ : Type) where
  name : String
  letter : Option Char := none
  action : SwitchAction σ

/-- What has been read of a command line. -/
structure Reading (σ : Type) where
  draft : σ
  operands : List String := []
  /-- The switches that have been given. -/
  given : List String := []

/-- Whether a word looks like a switch. -/
def looksLikeSwitch (word : String) : Bool :=
  match word.toList with
  | ['-'] => false
  | '-' :: _ => true
  | _ => false

namespace Reading

variable {σ : Type}

/-- Add an operand. -/
def addOperand (r : Reading σ) (word : String) : Reading σ :=
  { r with operands := r.operands ++ [word] }

/-- Add operands. -/
def addOperands (r : Reading σ) (words : List String) : Reading σ :=
  { r with operands := r.operands ++ words }

/-- Let a switch change the draft; a switch that was given before, or whose value does not suit,
is misuse. -/
def apply (r : Reading σ) (name : String) (draft : Option σ) : Except Refusal (Reading σ) :=
  match draft with
  | some draft =>
    if r.given.contains name then .error .misuse
    else .ok { r with draft, given := name :: r.given }
  | none => .error .misuse

end Reading

/-- What is still needed after a part of a command line has been read. -/
inductive Need (σ : Type) where
  /-- Nothing. -/
  | none
  /-- The value of a switch. -/
  | value (name : String) (put : String → σ → Option σ)

namespace Switch

variable {σ : Type}

/-- Read the letters of a word behind a single dash. A letter that takes a value takes the rest
of the word. -/
def readLetters (switches : List (Switch σ)) :
    List Char → Reading σ → Except Refusal (Reading σ × Need σ)
  | [], r => .ok (r, .none)
  | c :: rest, r =>
    match switches.find? (·.letter == some c) with
    | none => .error .misuse
    | some s =>
      match s.action with
      | .ends refusal => .error refusal
      | .plain change => do
        let r ← r.apply s.name (some (change r.draft))
        readLetters switches rest r
      | .value put =>
        match rest with
        | [] => .ok (r, .value s.name put)
        | '=' :: value => do
          let r ← r.apply s.name (put (String.ofList value) r.draft)
          return (r, .none)
        | value => do
          let r ← r.apply s.name (put (String.ofList value) r.draft)
          return (r, .none)

/-- Read a word behind two dashes. -/
def readName (switches : List (Switch σ)) (cs : List Char) (r : Reading σ) :
    Except Refusal (Reading σ × Need σ) :=
  let name := String.ofList (cs.takeWhile (· != '='))
  let value? :=
    match cs.dropWhile (· != '=') with
    | [] => none
    | _ :: value => some (String.ofList value)
  match switches.find? (·.name == name) with
  | none => .error .misuse
  | some s =>
    match s.action, value? with
    | .ends refusal, none => .error refusal
    | .plain change, none => do
      let r ← r.apply s.name (some (change r.draft))
      return (r, .none)
    | .value put, none => .ok (r, .value s.name put)
    | .value put, some value => do
      let r ← r.apply s.name (put value r.draft)
      return (r, .none)
    | _, some _ => .error .misuse

/-- Read a word that looks like a switch. -/
def readWord (switches : List (Switch σ)) (word : String) (r : Reading σ) :
    Except Refusal (Reading σ × Need σ) :=
  match word.toList with
  | '-' :: '-' :: cs => readName switches cs r
  | cs => readLetters switches (cs.drop 1) r

/-- Read words, either all of them or up to the first operand; return what is left. -/
def readWords (switches : List (Switch σ)) (toOperand : Bool) :
    List String → Reading σ → Except Refusal (Reading σ × List String)
  | [], r => .ok (r, [])
  | word :: rest, r =>
    if word = "--" then .ok (r.addOperands rest, [])
    else if !looksLikeSwitch word then
      if toOperand then .ok (r, word :: rest)
      else readWords switches toOperand rest (r.addOperand word)
    else
      match readWord switches word r with
      | .error refusal => .error refusal
      | .ok (r, .none) => readWords switches toOperand rest r
      | .ok (r, .value name put) =>
        match rest with
        | [] => .error .misuse
        | value :: rest =>
          if looksLikeSwitch value then .error .misuse
          else match r.apply name (put value r.draft) with
            | .error refusal => .error refusal
            | .ok r => readWords switches toOperand rest r

end Switch

end Contracts
