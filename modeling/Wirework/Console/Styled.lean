import Wirework.Console.Style
import Wirework.Text.Cluster

/-!
# Styled texts

A text for the console has styles in places. The styles are not shown, but where they change the text
falls into segments, whose widths are measured one by one. `Styled.slice` and `Styled.crop` take a part
of a text with the styles on it, and `fitSegments` brings the segments of a line to a width.
-/

namespace Wirework

/-- A style on the characters of a text from one place up to another. -/
structure Span where
  start : Nat
  stop : Nat
  style : String
  deriving DecidableEq

structure Styled where
  chars : List Char
  spans : List Span := []
  deriving DecidableEq

namespace Styled

/-! ## Parts -/

/-- The first `size` characters. -/
def crop (size : Nat) (t : Styled) : Styled where
  chars := t.chars.take size
  spans := (t.spans.filter (·.start < size)).map fun s => { s with stop := min s.stop size }

/-- A shorter text in place of a text, or a text that goes on after it. -/
def replace (chars : List Char) (t : Styled) : Styled where
  chars := chars
  spans := if chars.length < t.chars.length then (t.crop chars.length).spans else t.spans

/-- The `size` characters from a place on. A style on none of them is left out. -/
def slice (start size : Nat) (t : Styled) : Styled where
  chars := (t.chars.drop start).take size
  spans := t.spans.filterMap fun s =>
    let first := s.start - start
    let last := min (s.stop - start) size
    if first < last then some { s with start := first, stop := last } else none

/-- The parts of a text from a place on, whose lengths are given, with `gap` characters after each. -/
def slices (gap : Nat) (t : Styled) (start : Nat) : List Nat → List Styled
  | [] => []
  | size :: rest => t.slice start size :: t.slices gap (start + size + gap) rest

/-- A text in parts of given lengths. A text that is not divided keeps all its styles. -/
def divide (gap : Nat) (sizes : List Nat) (t : Styled) : List Styled :=
  if sizes.length ≤ 1 then [t] else t.slices gap 0 sizes

/-- A text after `n` blanks. -/
def indent (n : Nat) (t : Styled) : Styled where
  chars := Text.blanks n ++ t.chars
  spans := t.spans.map fun s => { s with start := s.start + n, stop := s.stop + n }

/-- A text with `n` blanks after it, which have the styles that reach to its end. -/
def extend (n : Nat) (t : Styled) : Styled where
  chars := t.chars ++ Text.blanks n
  spans := t.spans.map fun s => if s.stop < t.chars.length then s else { s with stop := s.stop + n }

def append (t u : Styled) : Styled where
  chars := t.chars ++ u.chars
  spans := t.spans ++ u.spans.map fun s =>
    { s with start := t.chars.length + s.start, stop := t.chars.length + s.stop }

instance : Append Styled := ⟨append⟩

/-! ## Segments -/

/-- The characters from the place `index` on in segments, which end where `isCut` says. -/
def segmentsFrom (isCut : Nat → Bool) (index : Nat) : List Char → List (List Char)
  | [] => []
  | c :: rest =>
    match segmentsFrom isCut (index + 1) rest with
    | [] => [[c]]
    | first :: others =>
      if isCut (index + 1) then [c] :: first :: others else (c :: first) :: others

/-- The parts of a text between the places where styles start or stop. -/
def segments (t : Styled) : List (List Char) :=
  segmentsFrom (fun i => t.spans.any fun s => s.start = i || s.stop = i) 0 t.chars

/-- Whether every color in a text is made of numbers. Another mistake in a style does not matter. -/
def isReadable (t : Styled) : Bool :=
  t.spans.all fun s => !(Style.parse s.style matches .error .number)

end Styled

/-! ## Segments of a given width -/

/-- The columns that segments take, each by itself. -/
def segmentColumns (segments : List (List Char)) : Nat :=
  segments.foldl (fun n s => n + Text.columns s) 0

/-- The segments of a line that do not fit in `room` columns, cropped. -/
def cropSegments (room : Nat) : List (List Char) → Except Text.Misfit (List (List Char))
  | [] => return []
  | s :: rest => do
    if Text.columns s < room then
      return s :: (← cropSegments (room - Text.columns s) rest)
    else return [← Text.fitted room s]

/-- The segments of a line that takes at most a number of columns. -/
def boundSegments (size : Nat) (segments : List (List Char)) :
    Except Text.Misfit (List (List Char)) :=
  if segmentColumns segments ≤ size then return segments else cropSegments size segments

/-- The segments of a line that takes a number of columns, as far as blanks and cropping bring it
there. -/
def fitSegments (size : Nat) (segments : List (List Char)) :
    Except Text.Misfit (List (List Char)) :=
  if segmentColumns segments < size then
    return segments ++ [Text.blanks (size - segmentColumns segments)]
  else boundSegments size segments

end Wirework
