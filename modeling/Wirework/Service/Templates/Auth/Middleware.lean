import Wirework.Service.Templates.Name

/-!
# Middleware
-/

namespace Wirework.Service.Templates.Auth

open Template

def middleware : Template :=
  [.choose (framework.is "axum")
     [.text [
        "use axum::\x7b",
        "    async_trait,",
        "    extract::FromRequestParts,",
        "    http::\x7brequest::Parts, StatusCode\x7d,",
        "\x7d;",
        "",
        "#[async_trait]",
        "impl<S> FromRequestParts<S> for AuthUser",
        "where",
        "    S: Send + Sync,",
        "\x7b",
        "    type Rejection = (StatusCode, &'static str);",
        ""],
      .choose (config.get "use_jwt")
        [.text [
           "    async fn from_request_parts(parts: &mut Parts, _state: &S) -> Result<Self, Self::Rejection> \x7b",
           "        let auth_header = parts",
           "            .headers",
           "            .get(\"Authorization\")",
           "            .and_then(|value| value.to_str().ok())",
           "            .ok_or((StatusCode::UNAUTHORIZED, \"Missing Authorization header\"))?;",
           "",
           "        let token = auth_header",
           "            .strip_prefix(\"Bearer \")",
           "            .ok_or((StatusCode::UNAUTHORIZED, \"Invalid Authorization header format\"))?;",
           "",
           "        let claims = decode_jwt_token(token, &get_jwt_secret())",
           "            .map_err(|_| (StatusCode::UNAUTHORIZED, \"Invalid token\"))?;",
           "",
           "        Ok(AuthUser \x7b",
           "            id: uuid::Uuid::parse_str(&claims.sub)",
           "                .map_err(|_| (StatusCode::UNAUTHORIZED, \"Invalid user ID in token\"))?,",
           "            email: claims.email,",
           "            token: token.to_string(),",
           "        \x7d)",
           "    \x7d"]]
        [.text [
           "    async fn from_request_parts(parts: &mut Parts, state: &S) -> Result<Self, Self::Rejection> \x7b",
           "        let session = Session::from_request_parts(parts, state)",
           "            .await",
           "            .map_err(|_| (StatusCode::UNAUTHORIZED, \"Missing session\"))?;",
           "",
           "        let id: uuid::Uuid = session",
           "            .get(\"user_id\")",
           "            .await",
           "            .ok()",
           "            .flatten()",
           "            .ok_or((StatusCode::UNAUTHORIZED, \"Not logged in\"))?;",
           "        let email: String = session.get(\"email\").await.ok().flatten().unwrap_or_default();",
           "",
           "        Ok(AuthUser \x7b",
           "            id,",
           "            email,",
           "            token: String::new(),",
           "        \x7d)",
           "    \x7d"]],
      .text [
        "\x7d",
        "",
        "/// Optional auth extractor - doesn't fail if no auth is present",
        "pub struct OptionalAuthUser(pub Option<AuthUser>);",
        "",
        "#[async_trait]",
        "impl<S> FromRequestParts<S> for OptionalAuthUser",
        "where",
        "    S: Send + Sync,",
        "\x7b",
        "    type Rejection = std::convert::Infallible;",
        "",
        "    async fn from_request_parts(parts: &mut Parts, state: &S) -> Result<Self, Self::Rejection> \x7b",
        "        Ok(OptionalAuthUser(",
        "            AuthUser::from_request_parts(parts, state).await.ok(),",
        "        ))",
        "    \x7d",
        "\x7d"]]
     [.choose (framework.is "actix")
        [.choose (config.get "use_jwt")
           [.text [
              "use actix_web::\x7bdev::ServiceRequest, Error, HttpMessage\x7d;",
              "use actix_web_httpauth::extractors::bearer::BearerAuth;",
              "",
              "/// Validate the bearer token and attach the AuthUser to the request",
              "pub async fn jwt_validator(",
              "    req: ServiceRequest,",
              "    credentials: BearerAuth,",
              ") -> Result<ServiceRequest, (Error, ServiceRequest)> \x7b",
              "    let token = credentials.token();",
              "",
              "    let claims = match decode_jwt_token(token, &get_jwt_secret()) \x7b",
              "        Ok(claims) => claims,",
              "        Err(_) => return Err((actix_web::error::ErrorUnauthorized(\"Invalid token\"), req)),",
              "    \x7d;",
              "    let id = match uuid::Uuid::parse_str(&claims.sub) \x7b",
              "        Ok(id) => id,",
              "        Err(_) => return Err((actix_web::error::ErrorUnauthorized(\"Invalid user ID in token\"), req)),",
              "    \x7d;",
              "",
              "    req.extensions_mut().insert(AuthUser \x7b",
              "        id,",
              "        email: claims.email,",
              "        token: token.to_string(),",
              "    \x7d);",
              "    Ok(req)",
              "\x7d"]]
           [.text [
              "/// Read the logged-in user from the session",
              "pub fn current_user(session: &Session) -> Result<AuthUser, AuthError> \x7b",
              "    let id = session",
              "        .get::<uuid::Uuid>(\"user_id\")",
              "        .map_err(|e| AuthError::SessionError(e.to_string()))?",
              "        .ok_or(AuthError::Unauthorized)?;",
              "    let email = session",
              "        .get::<String>(\"email\")",
              "        .map_err(|e| AuthError::SessionError(e.to_string()))?",
              "        .unwrap_or_default();",
              "",
              "    Ok(AuthUser \x7b",
              "        id,",
              "        email,",
              "        token: String::new(),",
              "    \x7d)",
              "\x7d"]]]
        [.text [
           "/// Authentication hook for custom servers",
           "#[async_trait::async_trait]",
           "pub trait AuthMiddleware \x7b",
           "    async fn authenticate(&self, token: &str) -> Result<AuthUser, AuthError>;",
           "\x7d"],
         .when (config.get "use_jwt")
           [.text [
              "",
              "/// JWT-based authentication middleware",
              "pub struct JwtAuthMiddleware \x7b",
              "    secret: String,",
              "\x7d",
              "",
              "impl JwtAuthMiddleware \x7b",
              "    pub fn new(secret: impl Into<String>) -> Self \x7b",
              "        Self \x7b",
              "            secret: secret.into(),",
              "        \x7d",
              "    \x7d",
              "\x7d",
              "",
              "#[async_trait::async_trait]",
              "impl AuthMiddleware for JwtAuthMiddleware \x7b",
              "    async fn authenticate(&self, token: &str) -> Result<AuthUser, AuthError> \x7b",
              "        let claims = decode_jwt_token(token, &self.secret)?;",
              "",
              "        Ok(AuthUser \x7b",
              "            id: uuid::Uuid::parse_str(&claims.sub).map_err(|_| AuthError::InvalidToken)?,",
              "            email: claims.email,",
              "            token: token.to_string(),",
              "        \x7d)",
              "    \x7d",
              "\x7d"]]]]]

end Wirework.Service.Templates.Auth
