import Contracts.Unicode.Runs

/-!
# Sets of code points

A set of code points is given by its edges: the code points at which membership changes, in
ascending order, beginning outside. Every set has one such form, and every operation that decides
membership point by point is one walk over the edges of its operands.
-/

namespace Contracts.Unicode

/-- A set of code points by its edges. -/
structure CodeSet where
  edges : List Nat
  deriving DecidableEq

namespace CodeSet

/-- Whether a code point is inside, given whether the points before the first edge are. -/
def insideAt : Bool → List Nat → Nat → Bool
  | inside, [], _ => inside
  | inside, edge :: rest, c => if c < edge then inside else insideAt (!inside) rest c

/-- Whether a code point belongs to a set. -/
def holds (s : CodeSet) (c : Nat) : Bool := insideAt false s.edges c

/-- The set without members. -/
def empty : CodeSet := ⟨[]⟩

/-- Whether a set has no members. -/
def isEmpty (s : CodeSet) : Bool := s.edges.isEmpty

/-- Put an edge in front of others; two edges at one place are none. -/
def consEdge (edge : Nat) : List Nat → List Nat
  | next :: rest => if next = edge then rest else edge :: next :: rest
  | [] => [edge]

/-- The set of some ascending ranges of code points, first and last included. -/
def ofRanges (ranges : List (Nat × Nat)) : CodeSet :=
  ⟨ranges.foldr (fun (first, last) edges => consEdge first (consEdge (last + 1) edges)) []⟩

/-- The set of a range of code points, first and last included. -/
def range (first last : Nat) : CodeSet := ofRanges [(first, last)]

/-- Put a code point in front of a set whose members are not below it. -/
def consMember (c : Nat) (s : CodeSet) : CodeSet :=
  if s.edges.head? = some c then s else ⟨consEdge c (consEdge (c + 1) s.edges)⟩

/-- The set of some code points. -/
def ofList (members : List Nat) : CodeSet := members.mergeSort.foldr consMember empty

/-- The set of a table. -/
def ofRuns (runs : Runs) : CodeSet :=
  ofRanges <| runs.flatMap fun (first, last, step) =>
    if step = 1 then [(first, last)]
    else (Runs.members (first, last, step)).map fun c => (c, c)

/-- Walk over two lists of edges together, `n` steps at most, and keep the edges at which the
combined membership changes. -/
def combineEdges (f : Bool → Bool → Bool) : Nat → Bool → Bool → List Nat → List Nat → List Nat
  | 0, _, _, _, _ => []
  | n + 1, inS, inT, s, t =>
    let step (edge : Nat) (inS' inT' : Bool) (s t : List Nat) : List Nat :=
      let rest := combineEdges f n inS' inT' s t
      if f inS' inT' == f inS inT then rest else edge :: rest
    match s, t with
    | [], [] => []
    | a :: s, [] => step a (!inS) inT s []
    | [], b :: t => step b inS (!inT) [] t
    | a :: s, b :: t =>
      if a < b then step a (!inS) inT s (b :: t)
      else if b < a then step b inS (!inT) (a :: s) t
      else step a (!inS) (!inT) s t

/-- Decide membership by membership in two sets; what belongs to neither must not belong. -/
def combine (f : Bool → Bool → Bool) (s t : CodeSet) : CodeSet :=
  ⟨combineEdges f (s.edges.length + t.edges.length) false false s.edges t.edges⟩

/-- What belongs to one of two sets. -/
def union (s t : CodeSet) : CodeSet := s.combine (· || ·) t

/-- What belongs to both of two sets. -/
def inter (s t : CodeSet) : CodeSet := s.combine (· && ·) t

/-- What belongs to the first of two sets only. -/
def diff (s t : CodeSet) : CodeSet := s.combine (fun a b => a && !b) t

/-- What belongs to exactly one of two sets. -/
def symmDiff (s t : CodeSet) : CodeSet := s.combine (· != ·) t

/-- What belongs to one of some sets. -/
def unions (sets : List CodeSet) : CodeSet := sets.foldr union empty

/-- All characters: the code points up to the last one, without the surrogates. -/
def characters : CodeSet := ofRanges [(0, 0xD7FF), (0xE000, 0x10FFFF)]

/-- The characters that do not belong to a set. -/
def compl (s : CodeSet) : CodeSet := characters.diff s

/-- Pair the edges up to ranges. -/
def pairUp : List Nat → List (Nat × Nat)
  | first :: behind :: rest => (first, behind - 1) :: pairUp rest
  | _ => []

/-- The ranges of a set in ascending order, first and last included. -/
def ranges (s : CodeSet) : List (Nat × Nat) := pairUp s.edges

end CodeSet

end Contracts.Unicode
