import Wirework.Text.Blank

/-!
# Tables

Large sets of characters and long lists of names are written as texts. `Run.ofTable` reads a set of
characters from words such as `41-5A`, each of which counts from the end of the run before it, and
`entriesOf` a list from a text that abbreviates frequent pieces and what stands in it before.
-/

namespace Wirework.Text

/-! ## Runs of characters -/

/-- The number that capital hexadecimal digits stand for. -/
def hexValue (word : String) : Nat :=
  word.toList.foldl (fun n c => 16 * n + (if c.isDigit then c.toNat - 0x30 else c.toNat - 0x37)) 0

/-- The characters from one code point to another, as in `41-5A`, every second one of them, as in
`101:12F`, or a single one. -/
def Run.ofWord (word : String) : Run :=
  match word.splitOn "-", word.splitOn ":" with
  | [first, last], _ => ⟨hexValue first, hexValue last, 1⟩
  | _, [first, last] => ⟨hexValue first, hexValue last, 2⟩
  | _, _ => ⟨hexValue word, hexValue word, 1⟩

/-- Runs whose words count from the last character of the run before, which is `code` for the first
of them. -/
def Run.behind (code : Nat) : List String → List Run
  | [] => []
  | word :: rest =>
    let r := Run.ofWord word
    ⟨code + r.first, code + r.last, r.stride⟩ :: behind (code + r.last) rest

def Run.ofTable (table : String) : List Run := Run.behind 0 (words table)

/-! ## Texts in shorthand -/

def marks : List Char := ['$', '%', '/', ':', ';', '<', '>', '?', '[', ']', '^']

/-- The number that a character of a copy stands for: characters count from `#` on, without those that
a text cannot hold plainly. -/
def digit (c : Char) : Nat :=
  if c < '\\' then c.toNat - 35 else if c ≤ 'z' then c.toNat - 36 else c.toNat - 74

def repeated (back : Nat) : Nat → Array Char → Array Char
  | 0, done => done
  | count + 1, done => repeated back count (done.push (done.getD (done.size - back) '|'))

/-- Writes out a text in shorthand behind `done`. A mark begins a copy: the two characters after it say
how far back the copied characters stand, and how many they are. Any other character stands for its
piece, if there is one at its code point. -/
def expand (pieces : Array (List Char)) (done : Array Char) : List Char → Array Char
  | [] => done
  | c :: rest =>
    match marks.idxOf? c, rest with
    | some i, d :: n :: rest =>
      expand pieces (repeated (marks.length * digit d + i + 1) (digit n) done) rest
    | _, rest =>
      match pieces.getD c.toNat [] with
      | [] => expand pieces (done.push c) rest
      | piece => expand pieces (piece.foldl Array.push done) rest

/-- The pieces of a dictionary by the code points of the characters that stand for them. A word of the
dictionary is such a character and its piece, in which characters of the words before it stand for
their pieces. -/
def piecesOf (dictionary : String) : Array (List Char) :=
  (words dictionary).foldl
    (fun found word =>
      match word.toList with
      | [] => found
      | c :: piece => found.setIfInBounds c.toNat (expand found #[] piece).toList)
    (Array.replicate 0x800 [])

/-- The entries of a table in shorthand. They end at commas, and a bar is a blank. -/
def entriesOf (dictionary table : String) : List String :=
  let cs := expand (piecesOf dictionary) #[] ((words table).flatMap String.toList)
  (String.ofList (cs.toList.map fun c => if c = '|' then ' ' else c)).splitOn ","

end Wirework.Text
