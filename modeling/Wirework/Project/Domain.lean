import Wirework.Dict
import Wirework.Failure
import Wirework.Ordinal

/-!
# Domains

A domain groups the settings and features of one concern of a project, such as its database or its
interface. Ready-made domains exist for the usual choices.
-/

namespace Wirework

/-- The settings of one concern of a project. -/
structure Domain where
  enabled : Bool := true
  settings : Dict Setting := .empty
  priority : Ordinal := 0
  features : List String := []
  templatesDir : Option String := none
  deriving Inhabited

namespace Domain

def setSetting (d : Domain) (key : String) (value : Setting) : Domain :=
  { d with settings := d.settings.insert key value }

def setting? (d : Domain) (key : String) : Option Setting := d.settings.get? key

def string? (d : Domain) (key : String) : Option String := (d.setting? key).bind (·.asString?)

def bool? (d : Domain) (key : String) : Option Bool := (d.setting? key).bind (·.asBool?)

def int? (d : Domain) (key : String) : Option Int := (d.setting? key).bind (·.asInt?)

def hasFeature (d : Domain) (feature : String) : Bool := d.features.contains feature

def addFeature (d : Domain) (feature : String) : Domain :=
  if d.hasFeature feature then d else { d with features := d.features ++ [feature] }

/-- The domain without the first mention of a feature, and whether it had it. -/
def removeFeature (d : Domain) (feature : String) : Bool × Domain :=
  (d.hasFeature feature, { d with features := d.features.erase feature })

/-! ## Ready-made domains -/

def databasePreset (backend : String) : Except Failure Domain :=
  match backend with
  | "postgres" => .ok {
      settings := .ofList [("backend", .string "postgres"), ("generate_migrations", .bool true),
        ("pool_size", .int 10)]
      features := ["uuid", "json"] }
  | "sqlite" => .ok {
      settings := .ofList [("backend", .string "sqlite"), ("generate_migrations", .bool true),
        ("path", .string "data.db")] }
  | "mysql" => .ok {
      settings := .ofList [("backend", .string "mysql"), ("generate_migrations", .bool true),
        ("pool_size", .int 10)] }
  | _ => .error (.unknownPreset "database" backend)

def apiPreset (kind : String) : Except Failure Domain :=
  match kind with
  | "axum_rest" => .ok {
      settings := .ofList [("framework", .string "axum"), ("style", .string "rest"),
        ("port", .int 3000)]
      features := ["cors", "tracing"] }
  | "actix_rest" => .ok {
      settings := .ofList [("framework", .string "actix"), ("style", .string "rest"),
        ("port", .int 8080)]
      features := ["cors"] }
  | "graphql" => .ok {
      settings := .ofList [("framework", .string "async-graphql"), ("style", .string "graphql"),
        ("port", .int 3000)]
      features := ["playground"] }
  | _ => .error (.unknownPreset "API" kind)

end Domain

end Wirework
