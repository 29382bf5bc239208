import Wirework.Pattern.Basic

/-!
# Patterns without memory

A match of a pattern without references, conditions and ways that are cut off depends on the places of
its parts only. `Pattern.ends?` then gives all places where a match that starts at a given place may end;
whether a repetition prefers more or fewer rounds does not matter.
-/

namespace Wirework.Pattern

/-- A place of a text: what stands before it, the last character first, what follows it, and how much
that is. -/
structure Spot where
  before : List Char
  rest : List Char
  left : Nat

namespace Spot

def start (cs : List Char) : Spot := ⟨[], cs, cs.length⟩

def meets (s : Spot) (a : Anchor) : Bool := a.meets s.before.head? s.rest.head? (s.left = 1)

/-- The next place, if its character passes a test. -/
def step? (s : Spot) (test : Char → Bool) : Option Spot :=
  match s.rest with
  | c :: rest => if test c then some ⟨c :: s.before, rest, s.left - 1⟩ else none
  | [] => none

/-- The place that is `n` characters before. -/
def back? (s : Spot) : Nat → Option Spot
  | 0 => some s
  | n + 1 =>
    match s.before with
    | c :: before => back? ⟨before, c :: s.rest, s.left + 1⟩ n
    | [] => none

/-! Sets of places of one text are lists in the order of the text, without repeats. -/

def union : List Spot → List Spot → List Spot
  | [], ys => ys
  | xs, [] => xs
  | x :: xs, y :: ys =>
    if x.left = y.left then x :: union xs ys
    else if y.left < x.left then x :: union xs (y :: ys)
    else y :: union (x :: xs) ys
  termination_by xs ys => xs.length + ys.length

def minus : List Spot → List Spot → List Spot
  | [], _ => []
  | xs, [] => xs
  | x :: xs, y :: ys =>
    if x.left = y.left then minus xs ys
    else if y.left < x.left then x :: minus xs (y :: ys)
    else minus (x :: xs) ys
  termination_by xs ys => xs.length + ys.length

/-- All places that a step leads to from a set. -/
def advance (next : Spot → List Spot) (spots : List Spot) : List Spot :=
  spots.foldr (fun s others => union (next s) others) []

end Spot

/-- Exactly that many rounds of a step, from each place of a set. -/
def rounds (next : Spot → List Spot) (spots : List Spot) : Nat → List Spot
  | 0 => spots
  | n + 1 =>
    let moved := Spot.advance next spots
    if moved.map (·.left) = spots.map (·.left) then spots else rounds next moved n

/-- The places reached from a frontier by at most that many rounds, together with known ones. -/
def reach (next : Spot → List Spot) (known frontier : List Spot) : Nat → List Spot
  | 0 => known
  | n + 1 =>
    let new := Spot.minus (Spot.advance next frontier) known
    if new.isEmpty then known else reach next (Spot.union known new) new n

/-- The places reached from a set by any number of rounds. The first place of the set cannot be
reached any more, so each place is left once; the number bounds how many there are. -/
def closure (next : Spot → List Spot) (spots : List Spot) : Nat → List Spot
  | 0 => []
  | n + 1 =>
    match spots with
    | [] => []
    | s :: others =>
      s :: closure next (Spot.union ((next s).filter (·.left < s.left)) others) n

/-- The places reached by at least `low` and at most `high` rounds. -/
def repeatedEnds (next : Spot → List Spot) (low : Nat) (high : Option Nat) (s : Spot) : List Spot :=
  let least := rounds next [s] low
  match high with
  | some n =>
    if n - low ≤ s.left then reach next least least (n - low)
    else closure next least (s.left + 1)
  | none => closure next least (s.left + 1)

/-- Every place where a match that starts at a given place may end, for a pattern without memory. -/
def ends? : Pattern → Option (Spot → List Spot)
  | .empty => some fun s => [s]
  | .char test => some fun s => (s.step? test.passes).toList
  | .anchor a => some fun s => if s.meets a then [s] else []
  | .seq first second => do
    let one ← first.ends?
    let two ← second.ends?
    return fun s => Spot.advance two (one s)
  | .alt first second => do
    let one ← first.ends?
    let two ← second.ends?
    return fun s => Spot.union (one s) (two s)
  | .group _ body => body.ends?
  | .repeated low high manner body => do
    if manner = .possessive then none
    else return repeatedEnds (← body.ends?) low high
  | .look back negated body => do
    let next ← body.ends?
    return fun s =>
      let isMet := (s.back? back).any fun t => !(next t).isEmpty
      if isMet = negated then [] else [s]
  | .atomic _ | .again .. | .given .. => none

def leadsOn (next : Spot → List Spot) (before : List Char) (left : Nat) : List Char → Bool
  | [] => !(next ⟨before, [], left⟩).isEmpty
  | c :: rest =>
    !(next ⟨before, c :: rest, left⟩).isEmpty || leadsOn next (c :: before) (left - 1) rest

end Wirework.Pattern
