import Wirework.Service.Templates.Name

/-!
# Models

One model for each entity, and the list of all.
-/

namespace Wirework.Service.Templates

open Template

def model : Template :=
  [.line ["//! ", (entity.get "name").pascal, " model"],
   .text [""],
   .when (entity.get "description")
     [.line ["/// ", entity.get "description"]],
   .text ["#[derive(Debug, Clone, PartialEq, serde::Serialize, serde::Deserialize)]"],
   .line ["pub struct ", (entity.get "name").pascal, " \x7b"],
   .each "field" (entity.get "fields")
     [.when (field.get "description")
        [.line ["    /// ", field.get "description"]],
      .when (field.get "is_secret")
        [.text ["    #[serde(skip_serializing)]"]],
      .line ["    pub ", (field.get "name").ident, ": ", field.fieldType, ","]],
   .text ["\x7d", ""],
   .line ["impl ", (entity.get "name").pascal, " \x7b"],
   .text [
     "    /// Create a new instance",
     "    pub fn new() -> Self \x7b",
     "        Self::default()",
     "    \x7d",
     "\x7d",
     ""],
   .line ["impl Default for ", (entity.get "name").pascal, " \x7b"],
   .text ["    fn default() -> Self \x7b", "        Self \x7b"],
   .each "field" (entity.get "fields")
     [.line ["            ", (field.get "name").ident, ": ", field.fieldDefault, ","]],
   .text ["        \x7d", "    \x7d", "\x7d"]]

def modelIndex : Template :=
  [.text ["//! Data models", ""],
   .each "entity" entities
     [.line ["pub mod ", (entity.get "name").ident, ";"],
      .line ["pub use ", (entity.get "name").ident, "::", (entity.get "name").pascal, ";"]]]

end Wirework.Service.Templates
