import Wirework.Console.Highlight
import Wirework.Console.Markup
import Wirework.Console.Wrap

/-!
# The console

The console shows texts with markup in lines of a fixed width, without their styles.
-/

namespace Wirework.Console

def width : Nat := 1000

/-- The lines of a text in `width` columns, each in segments. -/
def segments (width : Nat) (overflow : Wrap.Overflow) (alignment : Wrap.Alignment) (text : Styled) :
    Except Markup.Error (List (List (List Char))) := do
  let lines ← (Wrap.wrap width overflow alignment text).mapError .misfit
  if lines.all Styled.isReadable then return lines.map Styled.segments else throw .color

def line (segments : List (List Char)) : Except Markup.Error String := do
  return String.ofList (← (boundSegments width segments).mapError .misfit).flatten

def lines (text : String) : Except Markup.Error (List String) := do
  (← segments width .fold .free (Highlight.apply (← Markup.shown text))).mapM line

/-- What follows the parameters and the last letter of a control sequence. -/
def afterSequence? : List Char → Option (List Char)
  | [] => none
  | c :: rest =>
    if c = ';' || c = '?' || c.isDigit then afterSequence? rest
    else if c.isAlpha then some rest
    else none

/-- A text without control sequences: an escape character, a bracket, parameters and a letter. -/
def withoutSequences : Nat → List Char → List Char
  | 0, cs => cs
  | _, [] => []
  | fuel + 1, c :: rest =>
    match if c = '\x1b' && rest.head? = some '[' then afterSequence? rest.tail else none with
    | some rest => withoutSequences fuel rest
    | none => c :: withoutSequences fuel rest

/-- A text as it is written where no terminal reads it. -/
def plain (text : String) : String :=
  String.ofList (withoutSequences text.toList.length text.toList)

end Wirework.Console
