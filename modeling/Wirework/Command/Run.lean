import Wirework.Catalog.Builtin
import Wirework.Command.Basic
import Wirework.Console.Table
import Wirework.Manifest
import Wirework.Project.Graph.Edit
import Wirework.Record.Catalog
import Wirework.Release
import Wirework.Service.Generate
import Wirework.Storage.Project

/-!
# Running commands

A command runs in a storage, draws ids and writes to the console. It ends with a code: zero if all
went well, one if something failed, two if the arguments make no request.
-/

namespace Wirework

/-- What a command wrote and drew so far. -/
structure Session where
  mint : Mint
  out : String := ""
  err : String := ""

/-- What a command leaves behind. -/
structure Outcome where
  code : Nat
  out : String
  err : String
  /-- A failure that the command did not expect. -/
  failure : Option Failure := none
  deriving DecidableEq

/-- What ends a command before its time. -/
inductive Stop where
  /-- The command has said why. -/
  | reported
  | unexpected (failure : Failure)

/-- A step of a command; it may end the command. -/
abbrev Act (m : Type → Type) := ExceptT Stop (StateT Session m)

namespace Act

variable {m : Type → Type} [Monad m]

def within (step : m α) : Act m α := liftM step

def echo (line : String) : Act m Unit := modify fun s => { s with out := s.out ++ line ++ "\n" }

def giveUp : Act m α := throw .reported

/-- Ends the command with a failure that it did not expect. -/
def escape (f : Failure) : Act m α := throw (.unexpected f)

def display (lines : Except Markup.Error (List String)) : Act m Unit :=
  match lines with
  | .ok lines => lines.forM echo
  | .error .broken => escape .brokenMarkup
  | .error .color => escape .brokenColor
  | .error (.misfit why) => escape (.unfit why)

def say (text : String) : Act m Unit := display (Console.lines text)

def sayTable (t : Table) : Act m Unit := display t.lines

/-- Reports an error and ends the command. -/
def abort (message : String) : Act m α := do
  modify fun s => { s with err := s.err ++ Console.plain ("Error: " ++ message) ++ "\n" }
  giveUp

/-- The value of a step that may fail, which is reported. -/
def require : Except Failure α → Act m α
  | .ok a => pure a
  | .error f => if f.isReportable then abort f.text else escape f

/-- The value of a step that is not expected to fail. -/
def expect : Except Failure α → Act m α
  | .ok a => pure a
  | .error f => escape f

/-- Builds something that needs ids. -/
def build (make : StateM Mint α) : Act m α := do
  let s ← get
  let (a, mint) := make.run s.mint
  set { s with mint }
  return a

def now : Act m Moment := return (← get).mint.now

/-- The outcome of a whole command, with the ids drawn. -/
def finish (act : Act m Unit) (mint : Mint) : m (Outcome × Mint) := do
  let (r, s) ← act.run.run { mint }
  return match r with
    | .ok _ => (⟨0, s.out, s.err, none⟩, s.mint)
    | .error .reported => (⟨1, s.out, s.err, none⟩, s.mint)
    | .error (.unexpected f) => (⟨1, s.out, s.err, some f⟩, s.mint)

end Act

namespace Command

open Act

variable {m : Type → Type} [Monad m] [Storage m]

/-! ## Tables -/

/-- The place of a finding in words. -/
def location (g : Graph) (i : Issue) : String :=
  match nonEmpty? i.nodeId, nonEmpty? i.edgeId with
  | some id, _ => "node " ++ ((g.node? id).map (·.name)).getD id
  | none, some id => "edge " ++ Text.take 8 id
  | none, none => ""

def severityStyle : Severity → String
  | .error => "red"
  | .warning => "yellow"
  | .info => "cyan"

def issueTable (g : Graph) (issues : List Issue) : Table where
  title := "Validation Findings"
  columns := [⟨"Severity", false⟩, ⟨"Kind", false⟩, ⟨"Location", false⟩, ⟨"Message", false⟩]
  rows := issues.map fun i =>
    let style := severityStyle i.severity
    ["[" ++ style ++ "]" ++ Labelled.label i.severity ++ "[/" ++ style ++ "]", i.kind.displayName,
      location g i, i.message]

def catalogTable (definitions : List Definition) : Table where
  title := "Components"
  columns := [⟨"ID", false⟩, ⟨"Name", false⟩, ⟨"Category", false⟩, ⟨"Description", false⟩]
  rows := definitions.map fun d => [d.id, d.name, d.category.displayName, d.description]

def nodeTable (g : Graph) : Table where
  title := "Nodes"
  columns := [⟨"Name", false⟩, ⟨"Type", false⟩, ⟨"Fields", true⟩, ⟨"Group", false⟩]
  rows := g.nodes.values.map fun n =>
    [n.name, n.componentType, toString n.fields.length,
      (((nonEmpty? n.groupId).bind g.group?).map (·.name)).getD ""]

/-! ## Steps -/

def load (project : Path) : Act m Graph := do
  let (g, mint) ← require (← within (ProjectFile.load project (← get).mint))
  modify fun s => { s with mint }
  return g

/-- The folder that a project file stands in, in full. -/
def folderOf (project : Path) : Act m Path :=
  return (Path.absolute (← within Storage.here) project).parent

def manifestOf (project : Path) : Act m Manifest := do
  require (← within (Manifest.load (← folderOf project)))

/-- A choice among the members of an enumeration, if one is made. -/
def chosen? [Labelled α] (noun : String) (value : Option String) : Act m (Option α) :=
  value.mapM fun v => require (choose noun v)

/-- Adds entities to a project, in a row from left to right. -/
def addEntities (g : Graph) (index : Nat) : List String → Act m Graph
  | [] => pure g
  | name :: rest => do
    let node ← expect (← build (Node.entity name).run)
    let x := Double.ofRatio false (100 + 250 * index) 1
    let node := { node with position := ⟨x, .ofRatio false 100 1⟩ }
    addEntities (← expect (g.addNode (← now) node)) (index + 1) rest

/-! ## Commands -/

def runCreate (name : String) (entities : List String) (output : Option Path) (force : Bool) :
    Act m Unit := do
  let path := output.getD (.ofText (name ++ ProjectFile.extension))
  let entry ← expect ((← within (Storage.entry? path)).mapError .blocked)
  if entry.isSome && !force then
    abort (path.text ++ " already exists (use --force to overwrite)")
  let g ← addEntities (.create name (← now)) 0 entities
  let _ ← expect (← within (ProjectFile.save g path false))
  say ("[green]Created[/green] " ++ path.text ++ " (" ++ toString entities.length ++ " entities)")

/-- The findings as a document. -/
def issuesJson (issues : List Issue) : String :=
  (Json.document? .report (Record.toData issues)).getD ""

def sayIssues (g : Graph) (issues : List Issue) : Act m Unit := do
  sayTable (issueTable g issues)
  let count := fun p : Issue → Bool => toString (issues.filter p).length
  say (count Issue.isError ++ " error(s), " ++ count Issue.isWarning ++ " warning(s), "
    ++ count Issue.isInfo ++ " info")

def runValidate (project : Path) (minSeverity : Option String) (json : Bool) : Act m Unit := do
  let g ← load project
  let v := (← manifestOf project).validator
  let v := { v with minSeverity := (← chosen? "severity" minSeverity).getD v.minSeverity }
  let issues := v.validate g
  if json then echo (issuesJson issues)
  else if issues.isEmpty then say ("[green]✓[/green] '" ++ g.about.name ++ "' is valid")
  else sayIssues g issues
  if issues.any (·.isError) then giveUp

/-- Where the files of a service go: to the folder asked for, or beside the project to the folder
that the manifest, the project or the options name. -/
def targetOf (project : Path) (output : Option Path) (manifest : Manifest) (o : Service.Options)
    (g : Graph) : Act m Path := do
  match output with
  | some path => return path
  | none =>
    let dir :=
      if manifest.generation.outputDir.isSome || g.about.outputDir.isEmpty then o.outputDir
      else g.about.outputDir
    return (← folderOf project).join (.ofText dir)

/-- The service of a project. Findings that forbid it are listed. -/
def generated (o : Service.Options) (manifest : Manifest) (g : Graph) : Act m Output := do
  match Service.generate o manifest.authOptions manifest.validator g with
  | .error (.validationFailed issues) =>
    sayTable (issueTable g issues)
    abort ("generation aborted, " ++ toString issues.length ++ " validation error(s)")
  | result => require result

def runGenerate (project : Path) (output : Option Path) (framework database : Option String)
    (noMigrations dryRun : Bool) : Act m Unit := do
  let g ← load project
  let manifest ← manifestOf project
  let o ← require manifest.options
  let o := { o with framework := (← chosen? "framework" framework).or o.framework }
  let o := { o with database := (← chosen? "database" database).or o.database }
  let o := { o with migrations := o.migrations && !noMigrations }
  let out ← generated o manifest g
  out.warnings.forM fun w => say ("[yellow]Warning:[/yellow] " ++ w)
  let target ← targetOf project output manifest o g
  if dryRun then
    say ("[bold]Would generate " ++ toString out.fileCount ++ " files in " ++ target.text
      ++ ":[/bold]")
    out.paths.forM fun path => say ("  " ++ path)
  else
    let written ← require (← within (out.writeTo target))
    say ("[green]✓[/green] Generated " ++ toString written.length ++ " files in " ++ target.text)

def runComponents (category search : Option String) : Act m Unit := do
  let registry ← build Catalog.builtin
  let definitions :=
    match ← chosen? "category" category with
    | some c => registry.ofCategory c
    | none => registry.all
  let definitions :=
    match nonEmpty? search with
    | some query => definitions.filter (·.matchesQuery query)
    | none => definitions
  if definitions.isEmpty then say "[dim]No matching components[/dim]"
  else sayTable (catalogTable definitions)

def runInfo (project : Path) : Act m Unit := do
  let g ← load project
  let about := g.about
  say ("[bold]" ++ about.name ++ "[/bold] v" ++ about.version)
  (nonEmpty? about.description).forM say
  say (toString g.nodes.size ++ " nodes, " ++ toString g.edges.size ++ " edges, "
    ++ toString g.groups.size ++ " groups")
  if !g.nodes.isEmpty then sayTable (nodeTable g)
  let enabled ← expect about.enabledDomains
  if !enabled.isEmpty then say ("Domains: " ++ ", ".intercalate enabled)

def usage : String :=
  "Usage: immortal [--version] [-v] [-q] new|validate|generate|components|info [ARGUMENTS]"

def act : Command → Act m Unit
  | .version => echo ("immortal " ++ release)
  | .help => echo usage
  | .create name entities output force => runCreate name entities output force
  | .validate project minSeverity json => runValidate project minSeverity json
  | .generate project output framework database noMigrations dryRun =>
    runGenerate project output framework database noMigrations dryRun
  | .components category search => runComponents category search
  | .info project => runInfo project

def run (args : List String) (mint : Mint) : m (Outcome × Mint) :=
  match parse? args with
  | some c => (act c).finish mint
  | none => return (⟨2, "", usage ++ "\n", none⟩, mint)

end Command

end Wirework
