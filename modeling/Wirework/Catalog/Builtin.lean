import Wirework.Catalog.Registry

/-!
# The built-in components

Sixteen components in five categories. The fields of a definition need ids of their own.
-/

namespace Wirework.Catalog

def describedField (id name label description : String) : Field :=
  (({ id, name, dataType := .ofScalar .text } : Field).withLabel label).withDescription description

/-! ## Sign-in -/

def login : Definition where
  id := "auth.login"
  name := "Login"
  category := .auth
  description := "Authenticate a user with email and password"
  icon := some "lock"
  tags := ["auth", "login", "signin"]
  recipe := .login

def register : Definition where
  id := "auth.register"
  name := "Register"
  category := .auth
  description := "Create a new user account"
  icon := some "user-plus"
  tags := ["auth", "register", "signup"]
  recipe := .register

def logout : Definition where
  id := "auth.logout"
  name := "Logout"
  category := .auth
  description := "End the current user session"
  icon := some "log-out"
  tags := ["auth", "logout", "signout"]
  recipe := .logout

def session : Definition where
  id := "auth.session"
  name := "Session"
  category := .auth
  description := "Track authenticated users across requests"
  icon := some "clock"
  tags := ["auth", "session", "cookie"]
  recipe := .session

/-! ## Data -/

def entity : Definition where
  id := "data.entity"
  name := "Entity"
  category := .data
  description := "Define a data model with fields and relationships"
  icon := some "entity"
  tags := ["model", "table", "struct"]
  recipe := .entity

def collection : Definition where
  id := "data.collection"
  name := "Collection"
  category := .data
  description := "A queryable collection of entities with filtering and pagination"
  icon := some "list"
  tags := ["list", "query", "filter"]
  inputs := [
    Port.markRequired (.dataIn "entity_type" (.entity "Any") (some "Entity Type")),
    .dataIn "filter" (.ofScalar .json) (some "Filter"),
    .triggerIn "refresh" (some "Refresh")]
  outputs := [
    .dataOut "items" (.array (.ofScalar .any)) (some "Items"),
    .dataOut "count" (.ofScalar .int64) (some "Count"),
    .dataOut "page_info" (.ofScalar .json) (some "Page Info"),
    .triggerOut "on_load" (some "On Load"),
    .triggerOut "on_error" (some "On Error")]
  config := .ofList [
    ("page_size", .int 20), ("default_sort", .string ""), ("auto_load", .bool true),
    ("cache", .bool false), ("cache_ttl", .int 300)]

def query : Definition where
  id := "data.query"
  name := "Query"
  category := .data
  description := "Build and execute database queries with conditions and joins"
  icon := some "search"
  tags := ["query", "sql", "select"]
  inputs := [
    Port.markRequired (.dataIn "source" (.entity "Any") (some "Source")),
    .dataIn "params" (.ofScalar .json) (some "Parameters"),
    .triggerIn "execute" (some "Execute")]
  outputs := [
    .dataOut "results" (.array (.ofScalar .any)) (some "Results"),
    .dataOut "first" (.optional (.ofScalar .any)) (some "First"),
    .triggerOut "on_complete" (some "On Complete"),
    .triggerOut "on_error" (some "On Error")]
  config := .ofList [
    ("query_type", .string "select"), ("limit", .int 100), ("distinct", .bool false)]

/-! ## Endpoints -/

def restEndpoint : Definition where
  id := "api.rest"
  name := "REST Endpoint"
  category := .api
  description := "Define a RESTful API endpoint with HTTP methods"
  icon := some "globe"
  tags := ["http", "rest", "api"]
  recipe := .restEndpoint

def graphql (fieldId : String) : Definition where
  id := "api.graphql"
  name := "GraphQL"
  category := .api
  description := "Define a GraphQL API with queries, mutations, and subscriptions"
  icon := some "graphql"
  tags := ["graphql", "api", "query"]
  fields := [describedField fieldId "schema" "Schema"
    "GraphQL schema definition"]
  inputs := [
    .dataIn "variables" (.ofScalar .json) (some "Variables"),
    .dataIn "context" (.ofScalar .any) (some "Context"),
    .triggerIn "execute" (some "Execute")]
  outputs := [
    .dataOut "data" (.ofScalar .json) (some "Data"),
    .dataOut "errors" (.array (.ofScalar .json)) (some "Errors"),
    .triggerOut "on_query" (some "On Query"),
    .triggerOut "on_mutation" (some "On Mutation")]
  config := .ofList [
    ("operation_type", .string "query"), ("method", .string "POST"),
    ("path", .string "/graphql"), ("introspection", .bool true), ("playground", .bool true),
    ("max_depth", .int 10)]

def websocket : Definition where
  id := "api.websocket"
  name := "WebSocket"
  category := .api
  description := "Real-time bidirectional communication over WebSocket"
  icon := some "radio"
  tags := ["websocket", "realtime", "api"]
  inputs := [
    .dataIn "send" (.ofScalar .any) (some "Send"),
    .triggerIn "broadcast" (some "Broadcast")]
  outputs := [
    .dataOut "message" (.ofScalar .any) (some "Message"),
    .triggerOut "on_connect" (some "On Connect"),
    .triggerOut "on_disconnect" (some "On Disconnect"),
    .triggerOut "on_message" (some "On Message")]
  config := .ofList [
    ("path", .string "/ws"), ("auth_required", .bool false), ("heartbeat_secs", .int 30)]

/-! ## Storage -/

def database : Definition where
  id := "storage.database"
  name := "Database"
  category := .storage
  description := "Database connection and configuration for data persistence"
  icon := some "database"
  tags := ["persistence", "sql", "data"]
  recipe := .database

def cache : Definition where
  id := "storage.cache"
  name := "Cache"
  category := .storage
  description := "In-memory or distributed caching for performance optimization"
  icon := some "zap"
  tags := ["performance", "memory", "redis"]
  inputs := [
    Port.markRequired (.dataIn "key" (.ofScalar .string) (some "Key")),
    .dataIn "value" (.ofScalar .any) (some "Value"),
    .dataIn "ttl" (.ofScalar .int64) (some "TTL"),
    .triggerIn "get" (some "Get"),
    .triggerIn "set" (some "Set"),
    .triggerIn "delete" (some "Delete")]
  outputs := [
    .dataOut "value" (.optional (.ofScalar .any)) (some "Value"),
    .dataOut "hit" (.ofScalar .bool) (some "Cache Hit"),
    .triggerOut "on_hit" (some "On Hit"),
    .triggerOut "on_miss" (some "On Miss")]
  config := .ofList [
    ("backend", .string "memory"), ("default_ttl", .int 3600), ("max_entries", .int 10000)]

def fileStorage : Definition where
  id := "storage.file"
  name := "File Storage"
  category := .storage
  description := "Store and retrieve files locally or in object storage"
  icon := some "file"
  tags := ["files", "upload", "s3"]
  inputs := [
    Port.markRequired (.dataIn "path" (.ofScalar .string) (some "Path")),
    .dataIn "content" (.ofScalar .bytes) (some "Content"),
    .triggerIn "upload" (some "Upload"),
    .triggerIn "download" (some "Download")]
  outputs := [
    .dataOut "url" (.ofScalar .string) (some "URL"),
    .dataOut "content" (.ofScalar .bytes) (some "Content"),
    .triggerOut "on_complete" (some "On Complete"),
    .triggerOut "on_error" (some "On Error")]
  config := .ofList [
    ("backend", .string "local"), ("base_path", .string "./uploads"), ("max_size_mb", .int 10)]

/-! ## Logic -/

def validator (fieldId : String) : Definition where
  id := "logic.validator"
  name := "Validator"
  category := .logic
  description := "Validate data against configurable rules"
  icon := some "check"
  tags := ["validation", "rules", "check"]
  fields := [describedField fieldId "rules_json" "Validation Rules"
    "JSON object mapping field names to validation rules"]
  inputs := [
    Port.markRequired (.dataIn "data" (.ofScalar .any) (some "Data")),
    .triggerIn "validate" (some "Validate"),
    .dataIn "rules" (.ofScalar .json) (some "Rules")]
  outputs := [
    .dataOut "data" (.ofScalar .any) (some "Valid Data"),
    .dataOut "is_valid" (.ofScalar .bool) (some "Is Valid"),
    .dataOut "errors" (.array (.ofScalar .string)) (some "Errors"),
    .triggerOut "valid" (some "On Valid"),
    .triggerOut "invalid" (some "On Invalid")]
  config := .ofList [
    ("fail_fast", .bool false), ("trim_strings", .bool true),
    ("allow_unknown_fields", .bool false)]

def transformer (fieldId : String) : Definition where
  id := "logic.transformer"
  name := "Transformer"
  category := .logic
  description := "Transform and map data between formats"
  icon := some "shuffle"
  tags := ["transform", "map", "convert"]
  fields := [describedField fieldId "mapping" "Field Mapping"
    "JSON mapping from target fields to source fields or expressions"]
  inputs := [
    Port.markRequired (.dataIn "input" (.ofScalar .any) (some "Input")),
    .triggerIn "transform" (some "Transform")]
  outputs := [
    .dataOut "output" (.ofScalar .any) (some "Output"),
    .triggerOut "success" (some "On Success"),
    .triggerOut "error" (some "On Error")]
  config := .ofList [
    ("mode", .string "mapping"), ("preserve_unmapped", .bool false),
    ("null_on_missing", .bool true)]

def condition (fieldId : String) : Definition where
  id := "logic.condition"
  name := "Condition"
  category := .logic
  description := "Conditional branching based on an expression"
  icon := some "git-branch"
  tags := ["condition", "if", "branch"]
  fields := [({ id := fieldId, name := "expression" } : Field).markRequired.withLabel "Expression"]
  inputs := [
    .dataIn "value" (.ofScalar .any) (some "Value"),
    .triggerIn "evaluate" (some "Evaluate")]
  outputs := [
    .dataOut "result" (.ofScalar .bool) (some "Result"),
    .triggerOut "true" (some "True"),
    .triggerOut "false" (some "False")]
  config := .ofList [
    ("operator", .string "equals")]

def builtin : StateM Mint Registry := do
  let fresh : StateM Mint String := modifyGet fun m => m.draw .field
  let definitions := [login, register, logout, session, entity, collection, query, restEndpoint,
    graphql (← fresh), websocket, database, cache, fileStorage, validator (← fresh),
    transformer (← fresh), condition (← fresh)]
  return definitions.foldl Registry.register {}

end Wirework.Catalog
