import Wirework.Pattern.Ends

/-!
# Searching for a pattern

Whether a text contains a match. The ways to match a pattern are tried in a fixed order: the first of
two alternatives before the second, and the numbers of rounds of a repetition as its manner says.
`Pattern.attempt` goes through them until the rest of the pattern matches as well; what the groups have
matched is remembered along the way. A pattern without memory needs no such order.
-/

namespace Wirework.Pattern

/-- How far an attempt has come. -/
structure Progress where
  /-- The number of characters passed. -/
  place : Nat
  /-- Where the groups have matched, the latest first. -/
  groups : List (Nat × Nat × Nat) := []

/-- Goes on from a point; the result is how far the whole attempt comes, if it succeeds. -/
abbrev Onward := Progress → Option Progress

namespace Progress

def atPlace (s : Progress) (place : Nat) : Progress := { s with place }

def meets (text : Array Char) (s : Progress) (a : Anchor) : Bool :=
  a.meets (if s.place = 0 then none else text[s.place - 1]?) text[s.place]? (s.place + 1 = text.size)

/-- Notes that a group has matched from a place up to here. -/
def note (s : Progress) (number : Option Nat) (start : Nat) : Progress :=
  match number with
  | some n => { s with groups := (n, start, s.place) :: s.groups }
  | none => s

end Progress

/-! ## Repetitions of one character -/

/-- How many characters from a place on pass a test, at most `limit`. -/
def run (text : Array Char) (test : CharTest) (place : Nat) : Nat → Nat
  | 0 => 0
  | limit + 1 =>
    match text[place]? with
    | some c => if test.passes c then run text test (place + 1) limit + 1 else 0
    | none => 0

/-- Goes on after `low + more` characters, and then after fewer, down to `low`. -/
def backOff (s : Progress) (low : Nat) (onward : Onward) : Nat → Option Progress
  | 0 => onward (s.atPlace (s.place + low))
  | more + 1 =>
    match onward (s.atPlace (s.place + low + (more + 1))) with
    | some found => some found
    | none => backOff s low onward more

/-- Goes on at the place, and then after one of up to `more` further characters. -/
def stretch (s : Progress) (onward : Onward) : Nat → Option Progress
  | 0 => onward s
  | more + 1 =>
    match onward s with
    | some found => some found
    | none => stretch (s.atPlace (s.place + 1)) onward more

def repeatChar (text : Array Char) (test : CharTest) (low : Nat) (high : Option Nat)
    (manner : Manner) (s : Progress) (onward : Onward) : Option Progress :=
  let left := text.size - s.place
  let count := run text test s.place (min (high.getD left) left)
  if count < low then none
  else
    match manner with
    | .greedy => backOff s low onward (count - low)
    | .lazy => stretch (s.atPlace (s.place + low)) onward (count - low)
    | .possessive => onward (s.atPlace (s.place + count))

/-! ## Repetitions of a pattern -/

def mayGoOn (high : Option Nat) (count : Nat) : Bool := high.all (count < ·)

/-- Repeats a pattern, as often as possible first, after `count` rounds, of which `last` is the place
where the latest one beyond the least number started. A round that passes no character ends the
repetition; `fuel` is a bound on the rounds. -/
def repeatGreedily (once : Progress → Onward → Option Progress) (low : Nat) (high : Option Nat)
    (onward : Onward) : Nat → Nat → Option Nat → Progress → Option Progress
  | 0, _, _, _ => none
  | fuel + 1, count, last, s =>
    if count < low then
      once s (repeatGreedily once low high onward fuel (count + 1) last)
    else if mayGoOn high count && last ≠ some s.place then
      match once s (repeatGreedily once low high onward fuel (count + 1) (some s.place)) with
      | some found => some found
      | none => onward s
    else onward s

/-- Repeats a pattern, as seldom as possible first. -/
def repeatLazily (once : Progress → Onward → Option Progress) (low : Nat) (high : Option Nat)
    (onward : Onward) : Nat → Nat → Option Nat → Progress → Option Progress
  | 0, _, _, _ => none
  | fuel + 1, count, last, s =>
    if count < low then
      once s (repeatLazily once low high onward fuel (count + 1) last)
    else
      match onward s with
      | some found => some found
      | none =>
        if mayGoOn high count && last ≠ some s.place then
          once s (repeatLazily once low high onward fuel (count + 1) (some s.place))
        else none

/-- Repeats a pattern as often as possible, each time in the first way. -/
def repeatFirmly (once : Progress → Onward → Option Progress) (low : Nat) (high : Option Nat)
    (onward : Onward) : Nat → Nat → Progress → Option Progress
  | 0, _, _ => none
  | fuel + 1, count, s =>
    if count < low then
      match once s some with
      | some next => repeatFirmly once low high onward fuel (count + 1) next
      | none => none
    else if mayGoOn high count then
      match once s some with
      | some next =>
        if next.place = s.place then onward next
        else repeatFirmly once low high onward fuel (count + 1) next
      | none => onward s
    else onward s

def repeatPattern (once : Progress → Onward → Option Progress) (low : Nat) (high : Option Nat)
    (manner : Manner) (left : Nat) (s : Progress) (onward : Onward) : Option Progress :=
  let fuel := low + left + 2
  match manner with
  | .greedy => repeatGreedily once low high onward fuel 0 none s
  | .lazy => repeatLazily once low high onward fuel 0 none s
  | .possessive => repeatFirmly once low high onward fuel 0 s

/-! ## Patterns -/

/-- The place after a stretch of the text that stands there again. -/
def again? (text : Array Char) (casing : Casing) (stop : Nat) (start place : Nat) : Nat → Option Nat
  | 0 => if start = stop then some place else none
  | left + 1 =>
    if start = stop then some place
    else
      match text[start]?, text[place]? with
      | some c, some d =>
        if casing.lower c.toNat = casing.lower d.toNat then
          again? text casing stop (start + 1) (place + 1) left
        else none
      | _, _ => none

/-- Goes through the ways to match a pattern at a place, up to the first from which the attempt
succeeds. -/
def attempt (text : Array Char) : Pattern → Progress → Onward → Option Progress
  | .empty, s, onward => onward s
  | .char test, s, onward =>
    match text[s.place]? with
    | some c => if test.passes c then onward (s.atPlace (s.place + 1)) else none
    | none => none
  | .anchor a, s, onward => if s.meets text a then onward s else none
  | .seq first second, s, onward => first.attempt text s fun t => second.attempt text t onward
  | .alt first second, s, onward =>
    match first.attempt text s onward with
    | some found => some found
    | none => second.attempt text s onward
  | .group number body, s, onward => body.attempt text s fun t => onward (t.note number s.place)
  | .repeated low high manner (.char test), s, onward =>
    repeatChar text test low high manner s onward
  | .repeated low high manner body, s, onward =>
    repeatPattern (body.attempt text) low high manner (text.size - s.place) s onward
  | .look back negated body, s, onward =>
    let found := if s.place < back then none else body.attempt text (s.atPlace (s.place - back)) some
    match found with
    | some t => if negated then none else onward (t.atPlace s.place)
    | none => if negated then onward s else none
  | .atomic body, s, onward =>
    match body.attempt text s some with
    | some t => onward t
    | none => none
  | .again casing number, s, onward =>
    match s.groups.lookup number with
    | some (start, stop) =>
      match again? text casing stop start s.place (stop - start) with
      | some place => onward (s.atPlace place)
      | none => none
    | none => none
  | .given number yes no, s, onward =>
    if (s.groups.lookup number).isSome then yes.attempt text s onward
    else no.attempt text s onward

/-- Whether a match starts at one of `more + 1` places. -/
def matchesFrom (p : Pattern) (text : Array Char) (place : Nat) : Nat → Bool
  | 0 => (p.attempt text ⟨place, []⟩ some).isSome
  | more + 1 =>
    (p.attempt text ⟨place, []⟩ some).isSome || matchesFrom p text (place + 1) more

/-- The stretches that the groups of a pattern match, in one match after the other from a place on.
The number bounds the places. -/
def groupsFrom (p : Pattern) (text : Array Char) : Nat → Nat → List (Nat × Nat)
  | 0, _ => []
  | more + 1, place =>
    match p.attempt text ⟨place, []⟩ some with
    | some found =>
      found.groups.reverse.map Prod.snd ++ p.groupsFrom text more (max found.place (place + 1))
    | none => p.groupsFrom text more (place + 1)

def groupsIn (p : Pattern) (text : List Char) : List (Nat × Nat) :=
  p.groupsFrom text.toArray (text.length + 1) 0

def occursIn (p : Pattern) (text : String) : Bool :=
  match p.ends? with
  | some next => leadsOn next [] text.toList.length text.toList
  | none => p.matchesFrom text.toList.toArray 0 text.toList.length

end Wirework.Pattern
