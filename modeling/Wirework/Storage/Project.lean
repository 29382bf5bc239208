import Wirework.Output
import Wirework.ProjectFile
import Wirework.Storage.Basic

/-!
# Projects and output in storage
-/

namespace Wirework

variable {m : Type → Type} [Monad m] [Storage m]

/-- The failure that a refused step is reported as; a path that is no path is a failure by itself. -/
def StorageError.failure (e : StorageError) (report : String → Failure) : Failure :=
  if e.obstacle = .invalidPath then .blocked e.obstacle else report e.text

/-- Writes a project to its file; afterwards it has no unsaved changes. -/
def ProjectFile.save (g : Graph) (p : Path) (compact : Bool) : m (Except Failure Graph) := do
  match ProjectFile.write g compact with
  | .error f => return .error f
  | .ok text =>
    match ← Storage.writeFile p (text ++ "\n") with
    | .ok _ => return .ok { g with dirty := false }
    | .error e => return .error (e.failure (.unsaved p.text))

def ProjectFile.load (p : Path) (mint : Mint) : m (Except Failure (Graph × Mint)) := do
  match ← Storage.entry? p, ← Storage.readText p with
  | .error o, _ => return .error (.blocked o)
  | .ok none, _ => return .error (.fileNotFound p.text)
  | _, .error o => return .error (.blocked o)
  | _, .ok text => return ProjectFile.read text mint

/-- Writes files below a folder, one after the other, up to the first that is refused. -/
def Output.writeFiles (root : Path) : List (String × String) → m (Except Failure (List Path))
  | [] => return .ok []
  | (path, text) :: rest => do
    let target := root.join (.ofText path)
    match ← Storage.writeFile target text with
    | .error e => return .error (e.failure (.unwritable target.text))
    | .ok _ => return (← writeFiles root rest).map (target :: ·)

/-- Writes all files of an output below a folder, in the order of their paths. -/
def Output.writeTo (o : Output) (root : Path) : m (Except Failure (List Path)) :=
  Output.writeFiles root o.sortedFiles

end Wirework
