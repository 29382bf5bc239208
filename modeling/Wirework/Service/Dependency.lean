import Wirework.Service.Options

/-!
# Dependencies

The crates that a service depends on, in the order in which its manifest lists them.
-/

namespace Wirework.Service

/-- A crate with a version and the features that are asked for. -/
structure Dependency where
  crate : String
  version : String
  features : List String := []
  deriving DecidableEq

namespace Dependency

def inQuotes (s : String) : String := "\"" ++ s ++ "\""

/-- The right-hand side of a line of the manifest. -/
def requirement (d : Dependency) : String :=
  match d.features with
  | [] => inQuotes d.version
  | features =>
    "\x7b version = " ++ inQuotes d.version ++ ", features = ["
      ++ ", ".intercalate (features.map inQuotes) ++ "] \x7d"

/-- What every service depends on. -/
def basics : List Dependency := [
  ⟨"tokio", "1", ["full"]⟩,
  ⟨"serde", "1", ["derive"]⟩,
  ⟨"serde_json", "1", []⟩,
  ⟨"thiserror", "1", []⟩,
  ⟨"anyhow", "1", []⟩,
  ⟨"tracing", "0.1", []⟩,
  ⟨"tracing-subscriber", "0.3", ["env-filter"]⟩,
  ⟨"uuid", "1", ["v4", "serde"]⟩,
  ⟨"chrono", "0.4", ["serde"]⟩,
  ⟨"dotenv", "0.15", []⟩]

def ofFramework : Framework → List Dependency
  | .axum => [⟨"axum", "0.7", ["macros"]⟩, ⟨"tower", "0.4", []⟩,
      ⟨"tower-http", "0.5", ["cors", "trace"]⟩]
  | .actix => [⟨"actix-web", "4", []⟩, ⟨"actix-rt", "2", []⟩]
  | .custom => []

def ofDatabase (b : Backend) : Dependency :=
  ⟨"sqlx", "0.7", ["runtime-tokio", Labelled.label b, "uuid", "chrono", "migrate"]⟩

/-- What the framework needs for authentication, with tokens or with sessions. -/
def ofSignIn : Framework → Bool → List Dependency
  | .axum, false => [⟨"tower-sessions", "0.12", []⟩]
  | .actix, true => [⟨"actix-web-httpauth", "0.8", []⟩]
  | .actix, false => [⟨"actix-session", "0.9", ["cookie-session"]⟩]
  | _, _ => []

def ofAuth (f : Framework) (o : AuthOptions) : List Dependency :=
  (if o.tokens then [⟨"jsonwebtoken", "9", []⟩] else [])
    ++ [if o.argon2 then ⟨"argon2", "0.5", []⟩ else ⟨"bcrypt", "0.15", []⟩,
      ⟨"async-trait", "0.1", []⟩]
    ++ ofSignIn f o.tokens

/-- What a service depends on, with authentication or without. -/
def all (f : Framework) (b : Backend) (auth : Option AuthOptions) : List Dependency :=
  basics ++ ofFramework f ++ [ofDatabase b] ++ (auth.map (ofAuth f)).getD []

end Dependency

end Wirework.Service
