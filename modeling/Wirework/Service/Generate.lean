import Wirework.Check.Validator
import Wirework.Migration.Basic
import Wirework.Output
import Wirework.Project.Graph
import Wirework.Service.Auth.Code
import Wirework.Service.Dependency
import Wirework.Service.Endpoint

/-!
# Generation

A service is generated from a project in which a validator finds no error. A plan fixes what the
service consists of: its framework and database, the entities and endpoints that are kept, and its
files. The path of a file can be told from the plan alone; its text is filled in from templates.
-/

namespace Wirework.Service

open Template (Value Scope)

/-! ## Nodes with a file of their own -/

/-- The nodes whose file name no earlier one has. -/
def keepFrom (seen : List String) : List Node → List Node
  | [] => []
  | n :: rest =>
    if seen.contains (Naming.snake n.name) then keepFrom seen rest
    else n :: keepFrom (Naming.snake n.name :: seen) rest

/-- The nodes whose file name an earlier one has. -/
def dropFrom (seen : List String) : List Node → List Node
  | [] => []
  | n :: rest =>
    if seen.contains (Naming.snake n.name) then n :: dropFrom seen rest
    else dropFrom (Naming.snake n.name :: seen) rest

def kept (nodes : List Node) : List Node := keepFrom [] nodes

def collisions (kind : String) (nodes : List Node) : List String :=
  (dropFrom [] nodes).map fun n =>
    "Skipped " ++ kind ++ " '" ++ n.name ++ "': name collides with another " ++ kind

/-! ## Plans -/

/-- What a service consists of. -/
structure Plan where
  about : About
  options : Options
  framework : Framework
  database : Backend
  /-- The options of authentication, for the framework of the plan. -/
  auth : AuthOptions
  entities : List Node
  endpoints : List Endpoint
  authNodes : List Node
  /-- Notes on nodes that were not kept. -/
  collisions : List String

namespace Plan

def make (o : Options) (a : AuthOptions) (g : Graph) : Plan :=
  let endpoints := g.nodesOfFamily Component.apiFamily
  { about := g.about
    options := o
    framework := o.frameworkFor g.about
    database := o.databaseFor g.about
    auth := { a with framework := o.frameworkFor g.about }
    entities := kept g.entities
    endpoints := (kept endpoints).map Endpoint.ofNode
    authNodes := g.nodesOfFamily Component.authFamily
    collisions := Service.collisions "entity" g.entities ++ Service.collisions "endpoint" endpoints }

def hasEntities (p : Plan) : Bool := !p.entities.isEmpty

def hasEndpoints (p : Plan) : Bool := !p.endpoints.isEmpty

def hasAuth (p : Plan) : Bool := !p.authNodes.isEmpty

def hasMigrations (p : Plan) : Bool := p.hasEntities && p.options.migrationsFor p.about

def hasAuthRoutes (p : Plan) : Bool := p.hasAuth && Auth.hasRouteFile p.framework p.authNodes

def authRoutes (p : Plan) : List Auth.Route :=
  if p.hasAuthRoutes then Auth.routes p.authNodes else []

def crateName (p : Plan) : String := (nonEmpty? (some (Naming.snake p.about.name))).getD "app"

def description (p : Plan) : String :=
  (nonEmpty? p.about.description).getD (p.about.name ++ " - generated by Immortal Engine")

def defaultPort (p : Plan) : Int := if p.framework = .actix then 8080 else 3000

/-- The modules of the library, in the order in which its root declares them. -/
def modules (p : Plan) : List String :=
  ["config", "error"] ++ (if p.hasEntities then ["models"] else [])
    ++ (if p.hasAuth then ["auth"] else [])
    ++ (if p.hasEndpoints then ["handlers", "routes"] else [])

def migrationBase (p : Plan) : Moment := p.options.migrationBase.getD p.about.createdAt

def migrations (p : Plan) : Except Failure (List Migration) :=
  if p.hasMigrations then
    Migration.plan { backend := p.database } p.migrationBase (some p.migrationBase) p.entities
  else .ok []

end Plan

/-! ## Files -/

inductive File where
  | cargoManifest
  | mainProgram
  | libraryRoot
  | configuration
  | errors
  | modelIndex
  | model (entity : Node)
  | auth
  | authRoutes
  | handlerIndex
  | handler (endpoint : Endpoint)
  | routes
  | migration (m : Migration)
  | envExample
  | readme

def File.path : File → String
  | .cargoManifest => "Cargo.toml"
  | .mainProgram => "src/main.rs"
  | .libraryRoot => "src/lib.rs"
  | .configuration => "src/config.rs"
  | .errors => "src/error.rs"
  | .modelIndex => "src/models/mod.rs"
  | .model e => "src/models/" ++ Naming.snake e.name ++ ".rs"
  | .auth => "src/auth/mod.rs"
  | .authRoutes => "src/auth/routes.rs"
  | .handlerIndex => "src/handlers/mod.rs"
  | .handler e => e.file
  | .routes => "src/routes.rs"
  | .migration m => "migrations/" ++ m.filename
  | .envExample => ".env.example"
  | .readme => "README.md"

namespace Plan

/-- The files that make up the program, in the order in which they are written. -/
def sources (p : Plan) : List File :=
  [File.cargoManifest, .mainProgram, .libraryRoot, .configuration, .errors]
    ++ (if p.hasEntities then File.modelIndex :: p.entities.map File.model else [])
    ++ (if p.hasAuth then [File.auth] else [])
    ++ (if p.hasAuthRoutes then [File.authRoutes] else [])
    ++ (if p.hasEndpoints then File.handlerIndex :: p.endpoints.map File.handler ++ [File.routes]
        else [])

/-- The files beside the program, with given migrations. -/
def companions (migrations : List Migration) : List File :=
  migrations.map File.migration ++ [File.envExample, .readme]

/-- The files of a service with given migrations, in the order in which they are written. -/
def files (p : Plan) (migrations : List Migration) : List File := p.sources ++ companions migrations

end Plan

/-! ## Values for templates -/

def entityValue (n : Node) : Value := .record [
  ("name", .ofText n.name),
  ("description", .plain (Data.ofOption .text n.description)),
  ("fields", .list (n.fields.map .field))]

def Endpoint.value (e : Endpoint) : Value := .record [
  ("name", .ofText e.name),
  ("module", .ofText e.handler),
  ("handler", .ofText e.handler),
  ("method", .ofText (Labelled.label e.method)),
  ("path", .ofText e.path),
  ("method_fn", .ofText e.method.routing),
  ("has_body", .ofBool e.method.hasBody)]

def Dependency.value (d : Dependency) : Value := .ofTexts [d.crate, d.requirement]

namespace Plan

def entitiesValue (p : Plan) : Value := .list (p.entities.map entityValue)

def endpointsValue (p : Plan) : Value := .list (p.endpoints.map Endpoint.value)

def frameworkValue (p : Plan) : Value := Auth.frameworkValue p.framework

def manifestScope (p : Plan) : Scope := [
  ("crate_name", .ofText p.crateName),
  ("version", .ofText p.about.version),
  ("description", .ofText p.description),
  ("dependencies", .list ((Dependency.all p.framework p.database
    (if p.hasAuth then some p.auth else none)).map Dependency.value))]

def mainScope (p : Plan) : Scope := [
  ("name", .ofText p.about.name),
  ("description", .ofText p.description),
  ("framework", p.frameworkValue),
  ("crate_name", .ofText p.crateName)]

def libraryScope (p : Plan) : Scope := [
  ("name", .ofText p.about.name),
  ("modules", .ofTexts p.modules),
  ("framework", p.frameworkValue),
  ("use_jwt", .ofBool (p.hasAuth && p.auth.tokens)),
  ("has_api", .ofBool p.hasEndpoints),
  ("has_auth_routes", .ofBool p.hasAuthRoutes)]

def configurationScope (p : Plan) : Scope := [
  ("default_port", .ofInt p.defaultPort),
  ("database_name", .ofText p.database.displayName),
  ("pool_type", .ofText p.database.poolType),
  ("has_migrations", .ofBool p.hasMigrations),
  ("jwt_secret_env", .ofText p.auth.secretVariable),
  ("generate_tests", .ofBool p.options.tests)]

def envScope (p : Plan) (expiryHours : Ordinal) : Scope := [
  ("name", .ofText p.about.name),
  ("default_port", .ofInt p.defaultPort),
  ("database_name", .ofText p.database.displayName),
  ("database_url", .ofText p.database.exampleUrl),
  ("has_auth", .ofBool p.hasAuth),
  ("jwt_secret_env", .ofText p.auth.secretVariable),
  ("jwt_expiry_hours", .plain expiryHours.toData)]

def readmeScope (p : Plan) : Scope := [
  ("name", .ofText p.about.name),
  ("description", .ofText p.description),
  ("framework_name", .ofText p.framework.displayName),
  ("database_name", .ofText p.database.displayName),
  ("has_migrations", .ofBool p.hasMigrations),
  ("entities", p.entitiesValue),
  ("endpoints", p.endpointsValue),
  ("has_auth", .ofBool p.hasAuth),
  ("auth_routes", .list (p.authRoutes.map Auth.Route.value)),
  ("reference", .ofBool p.options.reference)]

/-! ## Texts -/

def text (p : Plan) (code : Auth.Code) : File → Except Failure String
  | .cargoManifest => Templates.fill "cargo_toml" Templates.cargoManifest p.manifestScope
  | .mainProgram => Templates.fill "main_rs" Templates.mainProgram p.mainScope
  | .libraryRoot => Templates.fill "lib_rs" Templates.libraryRoot p.libraryScope
  | .configuration => Templates.fill "config_rs" Templates.configuration p.configurationScope
  | .errors => Templates.fill "error_rs" Templates.errors [("framework", p.frameworkValue)]
  | .modelIndex =>
    Templates.fill "models_mod_rs" Templates.modelIndex [("entities", p.entitiesValue)]
  | .model e => Templates.fill "model_rs" Templates.model [("entity", entityValue e)]
  | .auth => .ok code.moduleText
  | .authRoutes => .ok code.routes
  | .handlerIndex =>
    Templates.fill "handlers_mod_rs" Templates.handlerIndex [("endpoints", p.endpointsValue)]
  | .handler e =>
    Templates.fill "handler_rs" Templates.handlerFile
      [("framework", p.frameworkValue), ("endpoint", e.value)]
  | .routes =>
    Templates.fill "routes_rs" Templates.routeTable
      [("framework", p.frameworkValue), ("endpoints", p.endpointsValue)]
  | .migration m => m.text.elim (.error .integerTooLong) .ok
  | .envExample => do
    Templates.fill "env_example" Templates.envExample (p.envScope (← p.auth.expiryHours))
  | .readme => Templates.fill "readme_md" Templates.readme p.readmeScope

/-- The paths and texts of all files, in the order in which they are written. -/
def writes (p : Plan) : Except Failure (List (String × String)) := do
  let code ← Auth.code p.auth p.authNodes
  let write := fun (f : File) => (p.text code f).map (f.path, ·)
  let sources ← p.sources.mapM write
  let migrations ← p.migrations
  let others ← (companions migrations).mapM write
  return sources ++ others

def warnings (p : Plan) : List String := p.collisions ++ Auth.warnings p.authNodes

/-- The output of a plan. Of files at one path the last one counts. -/
def output (p : Plan) : Except Failure Output := do
  return { name := p.about.name, files := .ofList (← p.writes), warnings := p.warnings }

end Plan

/-! ## Generation -/

/-- The validator that is used where none is given. -/
def defaultValidator : Validator := { minSeverity := .info }

def generate (o : Options) (a : AuthOptions) (v : Validator) (g : Graph) : Except Failure Output := do
  requireNoErrors (v.validateAll g)
  (Plan.make o a g).output

end Wirework.Service
