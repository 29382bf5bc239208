import Wirework.Console.Emoji
import Wirework.Console.Literal
import Wirework.Console.Styled

/-!
# Console markup

Texts for the console may hold tags in brackets that set and unset a style, such as `[bold]` and
`[/bold]`, and emoji codes. `Markup.shown` is what a console without styles shows. A tag that unsets a
style that is not set is a mistake, and then nothing is shown.
-/

namespace Wirework.Markup

/-- Why a text cannot be shown. -/
inductive Error where
  /-- A tag closes what is not open, or the arguments of a handler are no literals. -/
  | broken
  /-- A color has a component that is no number. -/
  | color
  /-- A line cannot be cropped to its width. -/
  | misfit (why : Text.Misfit)
  deriving DecidableEq

/-! ## Parts of a text -/

/-- A part of a text for the console. -/
inductive Segment where
  | text (cs : List Char)
  | tag (cs : List Char)

def startsTag (c : Char) : Bool := c.isLower || c = '#' || c = '/' || c = '@'

/-- The rest of a tag up to its closing bracket, and what follows. -/
def closing? (acc : List Char) : List Char → Option (List Char × List Char)
  | [] => none
  | ']' :: rest => some (acc.reverse, rest)
  | '[' :: _ => none
  | c :: rest => closing? (c :: acc) rest

/-- A tag after its opening bracket, and what follows. -/
def tag? : List Char → Option (List Char × List Char)
  | [] => none
  | c :: rest => if startsTag c then closing? [c] rest else none

/-- The parts of a text, of which `plain` has been read, reversed. An odd number of backslashes before
a tag makes it plain text, and each pair of them stands for one. A backslash before another bracket is
left out. -/
def segments (plain : List Char) (cs : List Char) : Nat → List Segment
  | 0 => [.text (plain.reverse ++ cs)]
  | fuel + 1 =>
    match cs.span (· = '\\') with
    | (slashes, '[' :: body) =>
      match tag? body with
      | some (name, rest) =>
        let first := if slashes.length % 2 = 1 then .text ('[' :: name ++ [']']) else .tag name
        .text plain.reverse :: .text (slashes.take (slashes.length / 2)) :: first
          :: segments [] rest fuel
      | none => segments ('[' :: slashes.drop 1 ++ plain) body fuel
    | (slashes, c :: rest) => segments (c :: slashes ++ plain) rest fuel
    | (slashes, []) => [.text (plain.reverse ++ slashes)]

/-! ## Tags -/

structure Tag where
  /-- The place in the text where it stands. -/
  start : Nat
  name : String
  /-- What follows an equals sign. -/
  parameters : List Char

def styleName (cs : List Char) : Except Error String := (Style.spelling cs).mapError fun _ => .color

/-- Whether the parameters of a tag name a handler, with literals as its arguments, or are a literal
themselves. -/
def isCall (parameters : List Char) : Bool :=
  let cs := Text.trim parameters
  match cs.dropWhile fun c => c = '.' || Literal.isNameChar c with
  | [] => true
  | '(' :: rest =>
    if rest.getLast? = some ')' && !rest.contains '\n' then Literal.isLiteral ('(' :: rest)
    else Literal.isLiteral cs
  | _ => Literal.isLiteral cs

/-- The style of a tag from its place up to another; what follows an equals sign belongs to it. -/
def Tag.span (t : Tag) (stop : Nat) : Span where
  start := t.start
  stop := stop
  style := t.name ++ " " ++ String.ofList t.parameters

/-- The style of a tag that is being closed. One whose name starts with an at sign names a handler and
has no style. -/
def Tag.closed (t : Tag) (stop : Nat) : Except Error Span :=
  if t.name.toList.head? ≠ some '@' then return t.span stop
  else if isCall t.parameters then return { t.span stop with style := "" }
  else throw .broken

/-- The open tags without the latest one with a given name, and that tag. -/
def close? (name : String) : List Tag → Option (Tag × List Tag)
  | [] => none
  | t :: rest =>
    if t.name = name then some (t, rest) else (close? name rest).map fun (u, us) => (u, t :: us)

/-- The tag that a closing tag closes, and the other open tags. A closing tag without a name closes
the latest one. -/
def closed? (opened : List Tag) (name : List Char) : Except Error (Option (Tag × List Tag)) := do
  if (Text.trim name).isEmpty then return opened.head?.map fun t => (t, opened.tail)
  else return close? (← styleName name) opened

/-- The open tags after a tag at a place, the latest first, and the style of the tag that it closes.
What follows an equals sign is no part of its name. -/
def restyle (place : Nat) (opened : List Tag) (tag : List Char) :
    Except Error (List Tag × List Span) := do
  match tag.takeWhile (· ≠ '=') with
  | '/' :: name =>
    match ← closed? opened name with
    | some (t, rest) => return (rest, [← t.closed place])
    | none => throw .broken
  | name =>
    return (⟨place, ← styleName name, (tag.dropWhile (· ≠ '=')).drop 1⟩ :: opened, [])

/-! ## The text shown -/

/-- Characters that move the cursor or ring the bell, and are not shown. -/
def isHidden (c : Char) : Bool := [7, 8, 11, 12, 13].contains c.toNat

/-- The texts of segments from a place on, with emoji in place of their codes. -/
def shownFrom (place : Nat) (opened : List Tag) : List Segment → Except Error Styled
  | [] => return ⟨[], opened.map (·.span place)⟩
  | .text cs :: rest => do
    let cs := (Emoji.replace cs).filter fun c => !isHidden c
    let t ← shownFrom (place + cs.length) opened rest
    return { t with chars := cs ++ t.chars }
  | .tag cs :: rest => do
    let (opened, spans) ← restyle place opened cs
    let t ← shownFrom place opened rest
    return { t with spans := spans ++ t.spans }

def shown (text : String) : Except Error Styled :=
  shownFrom 0 [] (segments [] text.toList (text.toList.length + 1))

end Wirework.Markup
