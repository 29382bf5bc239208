import Wirework.Text.Basic

/-!
# Paths

A path is kept as its parts, so that parts that say nothing (the empty one and `.`) never occur in
it. `..` stays where it is written, and is only resolved by `Path.absolute`.
-/

namespace Wirework

/-- A way to a file or a folder. -/
structure Path where
  /-- What the path starts from: nothing for the current folder, otherwise `/` or `//`. -/
  root : String := ""
  parts : List String
  deriving DecidableEq, Inhabited

namespace Path

/-- The parts of a text between slashes. -/
def split (acc : List Char) : List Char → List String
  | [] => [String.ofList acc.reverse]
  | '/' :: rest => String.ofList acc.reverse :: split [] rest
  | c :: rest => split (c :: acc) rest

/-- Whether a part leads anywhere. -/
def matters (part : String) : Bool := part ≠ "" && part ≠ "."

/-- What the slashes at the start of a text say. More than two count as one. -/
def rootOf (slashes : Nat) : String :=
  match slashes with
  | 0 => ""
  | 2 => "//"
  | _ => "/"

def ofText (text : String) : Path :=
  let cs := text.toList
  ⟨rootOf (cs.takeWhile (· = '/')).length, (split [] cs).filter matters⟩

def text (p : Path) : String :=
  if p.parts.isEmpty && p.root.isEmpty then "." else p.root ++ "/".intercalate p.parts

def isAbsolute (p : Path) : Bool := !p.root.isEmpty

/-- A path that goes on from another, unless it has its own start. -/
def join (p q : Path) : Path := if q.isAbsolute then q else ⟨p.root, p.parts ++ q.parts⟩

/-- The folder that a path stands in; a path without parts is its own. -/
def parent (p : Path) : Path := ⟨p.root, p.parts.dropLast⟩

/-- The parts without `..`, each of which takes back the part before it. -/
def resolve (done : List String) : List String → List String
  | [] => done
  | part :: rest => if part = ".." then resolve done.dropLast rest else resolve (done ++ [part]) rest

def absolute (here p : Path) : Path :=
  let full := here.join p
  ⟨full.root, resolve [] full.parts⟩

/-- All folders above a path, the nearest first. -/
def ancestors (p : Path) : List Path :=
  (List.range p.parts.length).reverse.map fun n => ⟨p.root, p.parts.take n⟩

end Path

end Wirework
