import Wirework.Command.Arguments
import Wirework.Storage.Path

/-!
# Commands

What the command line can be asked to do. `Command.parse?` reads it from the arguments, and gives
nothing where they are not used as they should be.
-/

namespace Wirework

inductive Command where
  | version
  | help
  /-- Writes a starter project with some entities. -/
  | create (name : String) (entities : List String) (output : Option Path) (force : Bool)
  /-- Reports the findings of a project. -/
  | validate (project : Path) (minSeverity : Option String) (json : Bool)
  /-- Generates the service of a project. -/
  | generate (project : Path) (output : Option Path) (framework database : Option String)
    (noMigrations dryRun : Bool)
  | components (category search : Option String)
  | info (project : Path)
  deriving DecidableEq

namespace Command

def helpSwitch : Switch := ⟨"--help", none, false⟩

def globalSwitches : List Switch :=
  [⟨"--version", none, false⟩, ⟨"--verbose", some 'v', false⟩, ⟨"--quiet", some 'q', false⟩,
    helpSwitch]

def createSwitches : List Switch :=
  [⟨"--entity", some 'e', true⟩, ⟨"--output", some 'o', true⟩, ⟨"--force", some 'f', false⟩]

def validateSwitches : List Switch :=
  [⟨"--min-severity", some 's', true⟩, ⟨"--json", none, false⟩]

def generateSwitches : List Switch :=
  [⟨"--output", some 'o', true⟩, ⟨"--framework", none, true⟩, ⟨"--database", none, true⟩,
    ⟨"--no-migrations", none, false⟩, ⟨"--dry-run", some 'n', false⟩]

def componentsSwitches : List Switch :=
  [⟨"--category", some 'c', true⟩, ⟨"--search", some 's', true⟩]

def wordless? (switches : List Switch) (args : List String) (make : Arguments → Command) :
    Option Command := do
  let a ← Arguments.parse? (helpSwitch :: switches) args
  if a.has "--help" then some .help else if a.words.isEmpty then some (make a) else none

def withWord? (switches : List Switch) (args : List String)
    (make : Arguments → String → Option Command) : Option Command := do
  let a ← Arguments.parse? (helpSwitch :: switches) args
  if a.has "--help" then some .help
  else
    match a.words with
    | [word] => make a word
    | _ => none

/-- The path that an argument names, unless it holds a character that no path can hold. -/
def path? (argument : String) : Option Path :=
  if argument.toList.contains '\x00' then none else some (.ofText argument)

/-- The path that an argument of a switch names, if the switch is given. -/
def output? (a : Arguments) : Option (Option Path) := (a.value? "--output").mapM path?

def named? (name : String) (args : List String) : Option Command :=
  match name with
  | "new" => withWord? createSwitches args fun a name => do
    some (.create name (a.values "--entity") (← output? a) (a.has "--force"))
  | "validate" => withWord? validateSwitches args fun a project => do
    some (.validate (← path? project) (a.value? "--min-severity") (a.has "--json"))
  | "generate" => withWord? generateSwitches args fun a project => do
    some (.generate (← path? project) (← output? a) (a.value? "--framework")
      (a.value? "--database") (a.has "--no-migrations") (a.has "--dry-run"))
  | "components" => wordless? componentsSwitches args fun a =>
    .components (a.value? "--category") (a.value? "--search")
  | "info" => withWord? [] args fun _ project => (path? project).map .info
  | _ => none

/-- The request that the arguments make. -/
def parse? (args : List String) : Option Command := do
  let a ← Arguments.split globalSwitches false {} args
  if a.has "--version" then some .version
  else if a.has "--help" then some .help
  else
    match a.words with
    | [] => none
    | name :: rest => named? name rest

end Command

end Wirework
