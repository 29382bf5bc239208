import Wirework.Console.Styled
import Wirework.Text.Blank

/-!
# Wrapping

A text that is wider than the console, or than its column in a table, is broken between words.
`wrap` gives its lines. A word that is wider than a whole line is folded or cut off, and white space
that would stand beyond the end of a line is dropped.
-/

namespace Wirework.Wrap

open Text

/-- What happens to a word that is wider than a line. -/
inductive Overflow where
  /-- It goes on in the next line. -/
  | fold
  /-- It ends in an ellipsis. -/
  | ellipsis
  deriving DecidableEq

inductive Alignment where
  /-- At the left, and the rest of the line is not filled. -/
  | free
  | left
  | right
  | center
  deriving DecidableEq

/-! ## Tabs -/

/-- The pieces of a text between the characters that separate them. -/
def split (separates : Char → Bool) : List Char → List (List Char)
  | [] => [[]]
  | c :: rest =>
    if separates c then [] :: split separates rest
    else
      match split separates rest with
      | piece :: others => (c :: piece) :: others
      | [] => [[c]]

/-- Joins the parts of a line, each of which but the last ends in a tab, with blanks up to the next
column whose number is a multiple of eight. The first part starts at `column`. -/
def joinTabs (column : Nat) : List Styled → Styled
  | [] => ⟨[], []⟩
  | [part] => part
  | part :: rest =>
    let part := { part with chars := part.chars.dropLast ++ [' '] }
    let column := column + columns part.chars
    let gap := (8 - column % 8) % 8
    part.extend gap ++ joinTabs (column + gap) rest

def expandTabs (line : Styled) : Styled :=
  let sizes := (split (· = '\t') line.chars).map List.length
  if sizes.length ≤ 1 then line
  else joinTabs 0 (line.slices 0 0 (sizes.dropLast.map (· + 1) ++ [sizes.getLastD 0]))

/-! ## Lines -/

/-- The words of a line, each with the white space after it; the first one has also the white space
before it. `chunk` is the start of the first one, reversed. -/
def chunksFrom (chunk : List Char) (hasWord afterBlank : Bool) : List Char → List (List Char)
  | [] => if hasWord then [chunk.reverse] else []
  | c :: rest =>
    if isBlank c then chunksFrom (c :: chunk) hasWord true rest
    else if hasWord && afterBlank then chunk.reverse :: chunksFrom [c] true false rest
    else chunksFrom (c :: chunk) true false rest

def chunks (line : List Char) : List (List Char) := chunksFrom [] false false line

def trimEnd (cs : List Char) : List Char := (cs.reverse.dropWhile isBlank).reverse

/-- Lines that are being filled. -/
structure Layout where
  /-- The lines that are full, the last one first. -/
  full : List (List Char) := []
  line : List Char := []
  /-- The columns that are taken in the last line. -/
  used : Nat := 0

namespace Layout

def start (l : Layout) (line : List Char) : Layout where
  full := if l.line.isEmpty then l.full else l.line :: l.full
  line := line
  used := columns line

/-- Places a word with the white space after it. -/
def place (width : Nat) (overflow : Overflow) (l : Layout) (chunk : List Char) : Layout :=
  let word := columns (trimEnd chunk)
  if l.used + word ≤ width then
    { l with line := l.line ++ chunk, used := l.used + columns chunk }
  else if width < word && overflow = .fold then (chop width chunk).foldl start l
  else l.start chunk

def lines (l : Layout) : List (List Char) := (l.line :: l.full).reverse

end Layout

/-- A line broken between words. A line without words stays whole. -/
def broken (width : Nat) (overflow : Overflow) (line : Styled) : List Styled :=
  match chunks line.chars with
  | [] => [line]
  | words => line.divide 0 ((words.foldl (Layout.place width overflow) {}).lines.map List.length)

/-- A line without the white space at its end that stands beyond the place `width`. -/
def withoutTail (width : Nat) (line : Styled) : Styled :=
  let size := line.chars.length
  let trailing := (line.chars.reverse.takeWhile isBlank).length
  if trailing = 0 || size ≤ width then line else line.crop (size - min trailing (size - width))

/-- A line that is not wider than `width`. -/
def bounded (width : Nat) (overflow : Overflow) (line : Styled) : Except Misfit Styled := do
  if columns line.chars ≤ width then return line
  else
    match overflow with
    | .fold => return line.replace (← fitted width line.chars)
    | .ellipsis => return line.replace ((← fitted (width - 1) line.chars) ++ ['…'])

def padded (n : Nat) (line : Styled) : Styled := line.replace (line.chars ++ blanks n)

/-- A line at its place in `width` columns. -/
def aligned (width : Nat) (overflow : Overflow) (alignment : Alignment) (line : Styled) :
    Except Misfit Styled := do
  match alignment with
  | .free => return line
  | .left => return padded (width - columns line.chars) (← bounded width overflow line)
  | .right =>
    let line ← bounded width overflow (line.replace (trimEnd line.chars))
    return line.indent (width - columns line.chars)
  | .center =>
    let line ← bounded width overflow (line.replace (trimEnd line.chars))
    let line := line.indent ((width - columns line.chars) / 2)
    return padded (width - columns line.chars) line

/-- The lines of a text in `width` columns. -/
def wrap (width : Nat) (overflow : Overflow) (alignment : Alignment) (text : Styled) :
    Except Misfit (List Styled) := do
  let lines := text.divide 1 ((split (· = '\n') text.chars).map List.length)
  let parts ← lines.mapM fun line : Styled => do
    let parts := (broken width overflow (expandTabs line)).map (withoutTail width)
    let parts ← parts.mapM fun l : Styled => aligned width overflow alignment l
    parts.mapM fun l : Styled => bounded width overflow l
  return parts.flatten

end Wirework.Wrap
