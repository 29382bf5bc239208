import Wirework.Failure
import Wirework.Service.Templates.Auth.Actions
import Wirework.Service.Templates.Auth.Middleware
import Wirework.Service.Templates.Auth.Support
import Wirework.Service.Templates.Auth.Types
import Wirework.Service.Templates.Config
import Wirework.Service.Templates.Entry
import Wirework.Service.Templates.Error
import Wirework.Service.Templates.Handler
import Wirework.Service.Templates.Model
import Wirework.Service.Templates.Project

/-!
# All templates

The templates of a service by name. A name is a path of parts; parts that are empty or a dot count
for nothing.
-/

namespace Wirework.Service.Templates

def all : List (List String × Template) := [
  (["cargo_toml"], cargoManifest),
  (["config_rs"], configuration),
  (["env_example"], envExample),
  (["error_rs"], errors),
  (["handler_rs"], handlerFile),
  (["handlers_mod_rs"], handlerIndex),
  (["lib_rs"], libraryRoot),
  (["main_rs"], mainProgram),
  (["model_rs"], model),
  (["models_mod_rs"], modelIndex),
  (["readme_md"], readme),
  (["routes_rs"], routeTable),
  (["auth", "_request"], Auth.request),
  (["auth", "imports"], Auth.imports),
  (["auth", "login"], Auth.login),
  (["auth", "logout"], Auth.logout),
  (["auth", "middleware"], Auth.middleware),
  (["auth", "register"], Auth.register),
  (["auth", "routes"], Auth.routeTable),
  (["auth", "session"], Auth.session),
  (["auth", "types"], Auth.types),
  (["auth", "utils"], Auth.support)]

/-- The template in a file: the name of the file is the template's with an ending. -/
def file? (ending path : String) : Option Template :=
  let parts := (path.splitOn "/").filter fun part => part ≠ "" && part ≠ "."
  match parts.getLast? with
  | some last =>
    if Text.endsWith last ending then
      all.lookup (parts.dropLast ++ [Text.take (last.length - ending.length) last])
    else none
  | none => none

def failure (name : String) : Template.Trouble → Failure
  | .overflow => .overflow
  | .tooLong => .integerTooLong
  | .undefined => .templateFailed name "a name has no value"
  | .wrongKind => .templateFailed name "a value is of the wrong kind"
  | .lacking => .templateFailed name "a value lacks what is asked of it"
  | .notPair => .templateFailed name "an item is no pair"

def fill (name : String) (t : Template) (scope : Template.Scope) : Except Failure String :=
  match t.render scope with
  | .ok s => .ok s
  | .error e => .error (failure name e)

end Wirework.Service.Templates
