import Wirework.Storage.Obstacle
import Wirework.Storage.Path
import Wirework.Text.Basic
import Wirework.Text.Quoted

/-!
# Storage

Files are kept in a storage that can look at a path, read a file, and make folders and files one at a
time. What needs several of these steps is written once for all storages.
-/

namespace Wirework

/-- What stands at a path. -/
inductive Entry where
  | file
  | folder
  deriving DecidableEq

/-- A step that was refused, and the path it was for. -/
structure StorageError where
  obstacle : Obstacle
  path : Path
  deriving DecidableEq

def StorageError.text (e : StorageError) : String :=
  e.obstacle.report ++ ": " ++ Text.quoted e.path.text

class Storage (m : Type → Type) where
  /-- The folder that paths start from. -/
  here : m Path
  look : Path → m (Except Obstacle Entry)
  fileText : Path → m (Except Obstacle String)
  /-- Makes one folder in a folder that is there. -/
  makeFolder : Path → m (Except StorageError Unit)
  /-- Makes a file in a folder that is there, or replaces its text. -/
  setFile : Path → String → m (Except StorageError Unit)

namespace Storage

variable {m : Type → Type} [Monad m] [Storage m]

/-- What stands at a path, if anything does. A path that is no path leads to nothing. -/
def entry? (p : Path) : m (Except Obstacle (Option Entry)) := do
  match ← look p with
  | .ok e => return .ok (some e)
  | .error .missing | .error .notFolder | .error .invalidPath => return .ok none
  | .error o => return .error o

/-- The text of a file, in which every line ends in a line feed alone. -/
def readText (p : Path) : m (Except Obstacle String) := do
  return (← fileText p).map fun text => String.ofList (Text.unifyLineEnds text.toList)

def ensureFolder (p : Path) : m (Except StorageError Unit) := do
  match ← makeFolder p with
  | .ok _ => return .ok ()
  | .error e =>
    match ← look p with
    | .ok .folder => return .ok ()
    | _ => return .error e

/-- Makes a folder and those above it that are missing. The number bounds how far up it goes. -/
def ensureFolders (p : Path) : Nat → m (Except StorageError Unit)
  | 0 => ensureFolder p
  | n + 1 => do
    match ← ensureFolder p with
    | .ok _ => return .ok ()
    | .error e =>
      if e.obstacle = .missing then
        match ← ensureFolders p.parent n with
        | .ok _ => ensureFolder p
        | .error e => return .error e
      else return .error e

/-- Writes a file, after making the folders it stands in. -/
def writeFile (p : Path) (text : String) : m (Except StorageError Unit) := do
  match ← ensureFolders p.parent p.parts.length with
  | .ok _ => setFile p text
  | .error e => return .error e

end Storage

end Wirework
