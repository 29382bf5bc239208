import Wirework.Storage.Basic

/-!
# File trees

A storage that is a plain value: the texts of all files, and the folders besides those that files
stand in. Every path in it is a full one. A path is followed part by part, so that each part but the
last has to be a folder, also one that `..` leaves again.
-/

namespace Wirework

structure Tree where
  here : Path
  files : List (Path × String) := []
  folders : List Path := []
  deriving Inhabited

namespace Tree

def text? (t : Tree) (full : Path) : Option String := t.files.lookup full

/-- Whether there is a folder at a full path. A file or a folder has all folders above it. -/
def hasFolder (t : Tree) (full : Path) : Bool :=
  let inside := fun p : Path => p.ancestors.contains full
  full = t.here || inside t.here || t.folders.any (fun p => p = full || inside p)
    || t.files.any fun f => inside f.1

def entryAt (t : Tree) (full : Path) : Option Entry :=
  if (t.text? full).isSome then some .file else if t.hasFolder full then some .folder else none

/-- The most bytes that one part of a path may have. -/
def partLimit : Nat := 255

/-- The least number of bytes that a whole path may not have. -/
def pathLimit : Nat := 4096

/-- Where a path leads, and what stands there. -/
structure Place where
  full : Path
  entry : Option Entry

def walk (t : Tree) (folder : Path) : List String → Except Obstacle Place
  | [] => .ok ⟨folder, some .folder⟩
  | part :: rest =>
    if part = ".." then t.walk folder.parent rest
    else if partLimit < part.utf8ByteSize then .error .nameTooLong
    else
      let full := folder.join ⟨"", [part]⟩
      match t.entryAt full, rest with
      | entry, [] => .ok ⟨full, entry⟩
      | some .folder, rest => t.walk full rest
      | some .file, _ => .error .notFolder
      | none, _ => .error .missing

def locate (t : Tree) (p : Path) : Except Obstacle Place :=
  if p.text.toList.contains '\x00' then .error .invalidPath
  else if pathLimit ≤ p.text.utf8ByteSize then .error .nameTooLong
  else
    let full := t.here.join p
    t.walk ⟨full.root, []⟩ full.parts

def look (t : Tree) (p : Path) : Except Obstacle Entry := do
  match (← t.locate p).entry with
  | some e => .ok e
  | none => .error .missing

def read (t : Tree) (p : Path) : Except Obstacle String := do
  let place ← t.locate p
  match place.entry, t.text? place.full with
  | some .folder, _ => .error .isFolder
  | _, some text => .ok text
  | _, none => .error .missing

def addFolder (t : Tree) (p : Path) : Except Obstacle Tree := do
  let place ← t.locate p
  match place.entry with
  | some _ => .error .occupied
  | none => .ok { t with folders := place.full :: t.folders }

def setText (t : Tree) (p : Path) (text : String) : Except Obstacle Tree := do
  let place ← t.locate p
  match place.entry with
  | some .folder => .error .isFolder
  | some .file =>
    .ok { t with files := t.files.map fun f => if f.1 = place.full then (f.1, text) else f }
  | none => .ok { t with files := t.files ++ [(place.full, text)] }

/-- A step on a tree, which stays as it is where the step is refused. -/
def attempt (p : Path) (step : Tree → Except Obstacle Tree) :
    StateM Tree (Except StorageError Unit) := fun t =>
  match step t with
  | .ok t => (.ok (), t)
  | .error o => (.error ⟨o, p⟩, t)

instance : Storage (StateM Tree) where
  here := return (← get).here
  look p := return (← get).look p
  fileText p := return (← get).read p
  makeFolder p := attempt p (addFolder · p)
  setFile p text := attempt p (setText · p text)

/-- The files below the current folder, by their paths from there. -/
def filesHere (t : Tree) : List (String × String) :=
  t.files.filterMap fun (p, text) =>
    if t.here.parts.isPrefixOf p.parts then
      some ((⟨"", p.parts.drop t.here.parts.length⟩ : Path).text, text)
    else none

/-- The tree with a file below the current folder, whatever stood there. -/
def withFile (t : Tree) (path text : String) : Tree :=
  let full := Path.absolute t.here (.ofText path)
  { t with files := t.files.filter (fun f => f.1 ≠ full) ++ [(full, text)] }

end Tree

end Wirework
