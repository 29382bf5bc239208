import Std.Time.DateTime.Timestamp
import Wirework.Command.Run
import Wirework.Uuid

/-!
# Command line

Runs the request of the command line on the files of the system.
-/

namespace Wirework.Main

def obstacle (path : Path) : IO.Error → IO Obstacle
  | .noFileOrDirectory .. => return .missing
  | .alreadyExists .. => return .occupied
  | .inappropriateType .. => do
    return if ← ((← IO.currentDir) / path.text).isDir then .isFolder else .notFolder
  | .invalidArgument _ 36 _ => return .nameTooLong
  | e => return .other (toString e)

/-- A step on a path, with the reason where the system refuses it. -/
def attempt (path : Path) (step : IO α) : IO (Except Obstacle α) := do
  try return .ok (← step)
  catch e => return .error (← obstacle path e)

def change (path : Path) (step : IO Unit) : IO (Except StorageError Unit) := do
  return (← attempt path step).mapError (⟨·, path⟩)

instance : Storage IO where
  here := return .ofText (← IO.currentDir).toString
  look path := do
    let full := (← IO.currentDir) / path.text
    if ← full.isDir then return .ok .folder
    else return (← attempt path full.metadata).map fun _ => .file
  fileText path := attempt path (IO.FS.readFile path.text)
  makeFolder path := change path (IO.FS.createDir path.text)
  setFile path text := change path (IO.FS.writeFile path.text text)

def lane : IdKind → Nat
  | .node => 0
  | .edge => 1
  | .group => 2
  | .field => 3

/-- Random ids and the time of the system. -/
def mint : IO Mint := do
  let seed := (← IO.getRandomBytes 16).toList.foldl (fun n b => 256 * n + b.toNat) 0
  let seconds := (← Std.Time.Timestamp.now).toSecondsSinceUnixEpoch.val
  return {
    spell := fun kind n => Uuid.fresh seed (4 * n + lane kind)
    now := (Moment.ofUnixMicros? (seconds * 1000000)).getD default }

end Wirework.Main

def main (args : List String) : IO UInt32 := do
  let (outcome, _) ← Wirework.Command.run args (← Wirework.Main.mint)
  IO.print outcome.out
  IO.eprint outcome.err
  outcome.failure.forM fun f => IO.eprintln f.text
  return outcome.code.toUInt32
