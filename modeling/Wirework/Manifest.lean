import Wirework.Check.Validator
import Wirework.Record.Options
import Wirework.Storage.Basic
import Wirework.Toml.Document

/-!
# Manifests

A manifest stands beside a project file and sets options for generation, authentication and
validation. Its sections may hold no keys but their own, and a missing manifest has the defaults.
-/

namespace Wirework

open Record

/-- The member that a text names, case aside. -/
def choose [Labelled α] (noun value : String) : Except Failure α :=
  match Labelled.ofLabel? (Text.lower value) with
  | some a => .ok a
  | none => .error (.unknownChoice noun value (Labelled.choices α))

namespace Manifest

/-- What a manifest says about generation. What it leaves open, the project decides. -/
structure Generation where
  framework : Option String := none
  database : Option String := none
  outputDir : Option String := none
  tests : Bool := true
  reference : Bool := true
  migrations : Bool := true
  deriving DecidableEq, Inhabited

structure Authentication where
  options : Service.AuthOptions := {}
  /-- The duration of a session as it is given. -/
  duration : Ordinal := options.duration
  deriving Inhabited

structure Validation where
  minSeverity : Severity := .warning
  failFast : Bool := false
  deriving DecidableEq, Inhabited

end Manifest

/-- The options beside a project. -/
structure Manifest where
  generation : Manifest.Generation := {}
  authentication : Manifest.Authentication := {}
  validation : Manifest.Validation := {}
  deriving Inhabited

namespace Manifest

/-! ## In documents -/

instance : Record Generation where
  read := readClosed ["framework", "database", "output_dir", "generate_tests", "generate_docs",
      "generate_migrations"] fun s => do
    return {
      framework := ← s.fieldOr "framework" none
      database := ← s.fieldOr "database" none
      outputDir := ← s.fieldOr "output_dir" none
      tests := ← s.fieldOr "generate_tests" true
      reference := ← s.fieldOr "generate_docs" true
      migrations := ← s.fieldOr "generate_migrations" true }
  toData o := .object [
    ("framework", toData o.framework),
    ("database", toData o.database),
    ("output_dir", toData o.outputDir),
    ("generate_tests", toData o.tests),
    ("generate_docs", toData o.reference),
    ("generate_migrations", toData o.migrations)]

/-- A number of seconds as it is given, which has to be positive. The value of a member has to be an
integer. -/
def seconds (s : Source) (key : String) (fallback : Int) : Reading Ordinal :=
  Reading.checked (s.fieldOr key (Ordinal.int fallback)) fun given =>
    match given.counted with
    | .int n => if 0 < n then pure given else .complain (key :: s.path) .notPositive
    | .other _ => .complain (key :: s.path) .integerTooLarge

instance : Record Authentication where
  read := readClosed ["use_jwt", "jwt_secret_env", "session_duration_secs", "use_argon2",
      "use_refresh_tokens"] fun s => do
    let tokens ← s.fieldOr "use_jwt" true
    let secretVariable ← s.fieldOr "jwt_secret_env" "JWT_SECRET"
    let duration ← seconds s "session_duration_secs" 86400
    let argon2 ← s.fieldOr "use_argon2" true
    let refreshTokens ← s.fieldOr "use_refresh_tokens" false
    let options := { tokens, secretVariable, duration := duration.counted, argon2, refreshTokens }
    return ⟨options, duration⟩
  toData a := .object [
    ("use_jwt", toData a.options.tokens),
    ("jwt_secret_env", toData a.options.secretVariable),
    ("session_duration_secs", toData a.duration),
    ("use_argon2", toData a.options.argon2),
    ("use_refresh_tokens", toData a.options.refreshTokens)]

instance : Record Validation where
  read := readClosed ["min_severity", "fail_fast"] fun s => do
    return {
      minSeverity := ← s.fieldOr "min_severity" .warning
      failFast := ← s.fieldOr "fail_fast" false }
  toData v := .object [
    ("min_severity", toData v.minSeverity),
    ("fail_fast", toData v.failFast)]

instance : Record Manifest where
  read := readRecord fun s => do
    return {
      generation := ← s.fieldOr "generator" {}
      authentication := ← s.fieldOr "auth" {}
      validation := ← s.fieldOr "validation" {} }
  toData m := .object [
    ("generator", toData m.generation),
    ("auth", toData m.authentication),
    ("validation", toData m.validation)]

/-! ## Use -/

/-- The options of generation. Framework and database have to be known ones. -/
def options (m : Manifest) : Except Failure Service.Options := do
  let g := m.generation
  return {
    framework := ← g.framework.mapM (choose "framework")
    database := ← g.database.mapM (choose "database")
    outputDir := g.outputDir.getD ({} : Service.Options).outputDir
    tests := g.tests
    reference := g.reference
    migrations := g.migrations }

def authOptions (m : Manifest) : Service.AuthOptions := m.authentication.options

def validator (m : Manifest) : Validator :=
  { failFast := m.validation.failFast, minSeverity := m.validation.minSeverity }

/-- The manifest of a document, whose options are known ones. -/
def ofData (d : Data) : Except Failure Manifest :=
  match (Record.read [] d : Reading Manifest).run default with
  | .error (.complaints list) => .error (.unreadableManifest list)
  | .error refusal => .error (.ofRefusal refusal)
  | .ok (m, _) => m.options.map fun _ => m

def fileName : String := "immortal.toml"

/-- The manifest at a path, or in the folder at a path. -/
def load {m : Type → Type} [Monad m] [Storage m] (p : Path) : m (Except Failure Manifest) := do
  let p :=
    match ← Storage.look p with
    | .ok .folder => p.join (.ofText fileName)
    | _ => p
  match ← Storage.entry? p, ← Storage.fileText p with
  | .error o, _ => return .error (.blocked o)
  | .ok none, _ => return .ok {}
  | _, .error o => return .error (.blocked o)
  | _, .ok text =>
    match Toml.parse text with
    | .error .malformed => return .error (.brokenManifest p.text)
    | .error .integerTooLong => return .error .integerTooLong
    | .error .tooDeep => return .error .nestedTooDeep
    | .ok d => return ofData d

end Manifest

end Wirework
