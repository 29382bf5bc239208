import Wirework.Template.Render

/-!
# Names in templates

The names that the templates of a service are written with.
-/

namespace Wirework.Template

namespace Expr

/-- Whether a value is a text. -/
def is (e : Expr) (s : String) : Expr := .equals e (.text s)

def ident (e : Expr) : Expr := .filtered .snakeIdent e

def pascal (e : Expr) : Expr := .filtered .pascal e

def stringLiteral (e : Expr) : Expr := .filtered .stringLiteral e

def lower (e : Expr) : Expr := .filtered .lower e

def size (e : Expr) : Expr := .filtered .size e

def fieldType (e : Expr) : Expr := .filtered .fieldType e

def fieldDefault (e : Expr) : Expr := .filtered .fieldDefault e

end Expr

end Wirework.Template

namespace Wirework.Service.Templates

open Template

def authRoutes : Expr := .var "auth_routes"

def config : Expr := .var "config"

def cookieName : Expr := .var "cookie_name"

def crateName : Expr := .var "crate_name"

def createUserFields : Expr := .var "create_user_fields"

def databaseName : Expr := .var "database_name"

def databaseUrl : Expr := .var "database_url"

def defaultPort : Expr := .var "default_port"

def dependencies : Expr := .var "dependencies"

def description : Expr := .var "description"

def durationSecs : Expr := .var "duration_secs"

def endpoint : Expr := .var "endpoint"

def endpoints : Expr := .var "endpoints"

def entities : Expr := .var "entities"

def entity : Expr := .var "entity"

def field : Expr := .var "field"

def framework : Expr := .var "framework"

def frameworkName : Expr := .var "framework_name"

def generateTests : Expr := .var "generate_tests"

def handler : Expr := .var "handler"

def hasApi : Expr := .var "has_api"

def hasAuth : Expr := .var "has_auth"

def hasAuthRoutes : Expr := .var "has_auth_routes"

def hasConfirm : Expr := .var "has_confirm"

def hasMigrations : Expr := .var "has_migrations"

def identity : Expr := .var "identity"

def jwtExpiryHours : Expr := .var "jwt_expiry_hours"

def jwtSecretEnv : Expr := .var "jwt_secret_env"

def moduleName : Expr := .var "module"

def modules : Expr := .var "modules"

def name : Expr := .var "name"

def node : Expr := .var "node"

def poolType : Expr := .var "pool_type"

def typePrefix : Expr := .var "prefix"

def provided : Expr := .var "provided"

def withReference : Expr := .var "reference"

def requestFields : Expr := .var "request_fields"

def route : Expr := .var "route"

def routes : Expr := .var "routes"

def requirement : Expr := .var "spec"

def useJwt : Expr := .var "use_jwt"

def version : Expr := .var "version"

end Wirework.Service.Templates
