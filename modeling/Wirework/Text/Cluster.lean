import Wirework.Text.Width

/-!
# Clusters

A terminal shows some characters as one: a character with the marks after it, with a selector that
asks for its picture, or with a character that a joiner fuses with it. `columns` is the width of a
text, `clusters` are its parts, and `fitted` and `chop` cut a text between its clusters.

A joiner at the start of a text is a cluster of its own, though the width of the text leaves out the
character after it. So the clusters of such a text may take more or fewer columns than the text.
-/

namespace Wirework.Text

/-- Fuses the character before it with the character after it. -/
def joiner : Char := '\u200d'

/-- Asks for the picture of the character before it. -/
def pictureSelector : Char := '\ufe0f'

/-! ## The width of a text -/

/-- The width of the part of a text that has been read. -/
structure Measuring where
  columns : Nat := 0
  /-- The latest character that takes columns, while it may still become a picture. -/
  base : Option Char := none
  /-- Whether a joiner has just been read. -/
  isJoined : Bool := false

def Measuring.read (s : Measuring) (c : Char) : Measuring :=
  if s.isJoined then { s with isJoined := false }
  else if c = joiner then { s with isJoined := true }
  else if c = pictureSelector then
    { s with columns := s.columns + (if s.base.any isPicturable then 1 else 0), base := none }
  else if charWidth c = 0 then s
  else { s with columns := s.columns + charWidth c, base := some c }

def columns (cs : List Char) : Nat := (cs.foldl Measuring.read {}).columns

/-! ## The clusters of a text -/

/-- Characters that are shown as one, with the columns that they take. -/
structure Cluster where
  chars : List Char
  columns : Nat
  deriving DecidableEq

/-- The clusters of the part of a text that has been read. -/
structure Clustering where
  /-- The clusters, the last one first. -/
  clusters : List Cluster := []
  /-- The latest character that takes columns, while it may still become a picture. -/
  base : Option Char := none
  /-- Whether a joiner has just been read. -/
  isJoined : Bool := false

namespace Clustering

def start (s : Clustering) (c : Char) (columns : Nat) : Clustering :=
  { s with clusters := ⟨[c], columns⟩ :: s.clusters }

/-- Adds a character to the last cluster, which becomes `wider`. -/
def extend (s : Clustering) (c : Char) (wider : Nat) : Clustering :=
  match s.clusters with
  | [] => s.start c 0
  | k :: rest => { s with clusters := ⟨k.chars ++ [c], k.columns + wider⟩ :: rest }

def read (s : Clustering) (c : Char) : Clustering :=
  if s.isJoined then { s.extend c 0 with isJoined := false }
  else if c = joiner then { s.extend c 0 with isJoined := !s.clusters.isEmpty }
  else if c = pictureSelector then
    if s.base.any isPicturable then { s.extend c 1 with base := none } else s.extend c 0
  else if charWidth c = 0 then s.extend c 0
  else { s.start c (charWidth c) with base := some c }

end Clustering

def clusters (cs : List Char) : List Cluster := (cs.foldl Clustering.read {}).clusters.reverse

def clusterColumns (ks : List Cluster) : Nat := ks.foldl (fun n k => n + k.columns) 0

/-! ## Texts of a given width -/

/-- Why a text cannot be cropped to a number of columns. -/
inductive Misfit where
  /-- Its clusters take no columns at all. -/
  | noColumns
  /-- Its clusters take fewer columns. -/
  | tooNarrow
  deriving DecidableEq

def blanks (n : Nat) : List Char := List.replicate n ' '

/-- The start of a text that takes a number of columns, with a blank in place of a cluster of which
only a part would fit. -/
def cropped (room : Nat) : List Cluster → List Char
  | [] => []
  | k :: rest =>
    if room = 0 then []
    else if k.columns ≤ room then k.chars ++ cropped (room - k.columns) rest
    else [' ']

/-- The start of a text that is wider than `size`, if its clusters are not narrower. -/
def crop? (size : Nat) (cs : List Char) : Except Misfit (List Char) :=
  let total := clusterColumns (clusters cs)
  if size = 0 then .ok []
  else if total = 0 then .error .noColumns
  else if total < size then .error .tooNarrow
  else if total = size then .ok cs
  else .ok (cropped size (clusters cs))

/-- A text that takes a given number of columns: filled up with blanks, or cropped. -/
def fitted (size : Nat) (cs : List Char) : Except Misfit (List Char) :=
  if columns cs ≤ size then .ok (cs ++ blanks (size - columns cs)) else crop? size cs

/-- The clusters in lines of at most `width` columns; `used` columns of the first one hold `line`.
A last line that takes no columns is left out. -/
def chopFrom (width used : Nat) (line : List Char) : List Cluster → List (List Char)
  | [] => if used = 0 then [] else [line]
  | k :: rest =>
    if used + k.columns ≤ width then chopFrom width (used + k.columns) (line ++ k.chars) rest
    else line :: chopFrom width k.columns k.chars rest

/-- A text in lines, each as long as fits in `width` columns. -/
def chop (width : Nat) (cs : List Char) : List (List Char) := chopFrom width 0 [] (clusters cs)

end Wirework.Text
