import Wirework.Pattern.Letter

/-!
# Search patterns

The parts of a pattern. A pattern matches a stretch of a text; it may note where its groups matched,
and ask later for the same text again.
-/

namespace Wirework

/-- A condition on a place of a text. -/
inductive Anchor where
  | textStart
  /-- The start of the text, or the place after a line break. -/
  | lineStart
  | textEnd
  /-- The end of the text, or the place before a line break that ends it. -/
  | finalEnd
  /-- The end of the text, or the place before a line break. -/
  | lineEnd
  | wordEdge (ascii : Bool)
  /-- Any place but the edge of a word. An empty text has none. -/
  | notWordEdge (ascii : Bool)
  deriving DecidableEq

/-- Whether a place between two characters meets a condition. -/
def Anchor.meets (before after : Option Char) (isLast : Bool) : Anchor → Bool
  | .textStart => before.isNone
  | .lineStart => before.isNone || before = some '\n'
  | .textEnd => after.isNone
  | .finalEnd => after.isNone || (after = some '\n' && isLast)
  | .lineEnd => after.isNone || after = some '\n'
  | .wordEdge ascii =>
    before.any (CharClass.word.has ascii ·) ≠ after.any (CharClass.word.has ascii ·)
  | .notWordEdge ascii =>
    (before.isSome || after.isSome)
      && before.any (CharClass.word.has ascii ·) = after.any (CharClass.word.has ascii ·)

/-- In which order a repetition tries numbers of rounds. -/
inductive Manner where
  /-- As many rounds as possible first. -/
  | greedy
  /-- As few rounds as possible first. -/
  | lazy
  /-- As many rounds as possible, of which none is given back. -/
  | possessive
  deriving DecidableEq

inductive Pattern where
  | empty
  | char (test : CharTest)
  | anchor (a : Anchor)
  | seq (first second : Pattern)
  | alt (first second : Pattern)
  /-- A group, of which a numbered one notes where it matched. -/
  | group (number : Option Nat) (body : Pattern)
  /-- At least `low` and at most `high` rounds. -/
  | repeated (low : Nat) (high : Option Nat) (manner : Manner) (body : Pattern)
  /-- A condition on what follows a place `back` characters before. -/
  | look (back : Nat) (negated : Bool) (body : Pattern)
  /-- Only the first way to match counts. -/
  | atomic (body : Pattern)
  /-- The text of a group again. -/
  | again (casing : Casing) (number : Nat)
  /-- One pattern if a group has matched, and another if not. -/
  | given (number : Nat) (yes no : Pattern)

namespace Pattern

/-- The least and the largest length of what a pattern matches, up to a bound. -/
structure Width where
  low : Nat
  high : Nat
  deriving DecidableEq

/-- The bound on lengths; a match without bound has this length. -/
def widthLimit : Nat := 18446744073709551616

namespace Width

def ofBounds (low high : Nat) : Width := ⟨min low widthLimit, min high widthLimit⟩

def add (v w : Width) : Width := ofBounds (v.low + w.low) (v.high + w.high)

def either (v w : Width) : Width := ⟨min v.low w.low, max v.high w.high⟩

def times (w : Width) (low : Nat) (high : Option Nat) : Width :=
  ofBounds (w.low * low) (match high with
    | some n => w.high * n
    | none => if w.high = 0 then 0 else widthLimit)

end Width

/-- The lengths of what a pattern matches, given those of the groups before it. -/
def width (groups : Nat → Width) : Pattern → Width
  | .empty | .anchor _ | .look .. => ⟨0, 0⟩
  | .char _ => ⟨1, 1⟩
  | .seq first second => (first.width groups).add (second.width groups)
  | .alt first second => (first.width groups).either (second.width groups)
  | .group _ body | .atomic body => body.width groups
  | .repeated low high _ body => (body.width groups).times low high
  | .again _ number => groups number
  | .given _ yes no => (yes.width groups).either (no.width groups)

end Pattern

end Wirework
