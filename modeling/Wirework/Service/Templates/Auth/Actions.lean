import Wirework.Service.Templates.Name

/-!
# Handlers and routes of authentication
-/

namespace Wirework.Service.Templates.Auth

open Template

/-! ## Requests and imports of authentication -/

def request : Template :=
  [.text ["#[derive(Debug, Deserialize)]"],
   .line ["pub struct ", typePrefix, "Request \x7b"],
   .each "field" requestFields
     [.line ["    pub ", field.get "ident", ": ", field.get "rust_type", ","]],
   .text ["\x7d"]]

def imports : Template :=
  [.choose (framework.is "axum")
     [.text ["use axum::\x7bextract::State, Json\x7d;"],
      .when (config.get "use_jwt").not
        [.text ["use tower_sessions::Session;"]],
      .text ["", "use crate::AppState;"]]
     [.when (framework.is "actix")
        [.text ["use actix_web::\x7bweb, HttpResponse\x7d;"],
         .when (config.get "use_jwt").not
           [.text ["use actix_session::Session;"]],
         .text ["", "use crate::AppState;"]]]]

/-! ## Login -/

def login : Template :=
  request ++
  [Block.text ["", "#[derive(Debug, Serialize)]"],
   .line ["pub struct ", typePrefix, "Response \x7b"],
   .when (config.get "use_jwt")
     [.text ["    pub token: String,"],
      .when (config.get "use_refresh_tokens")
        [.text ["    pub refresh_token: String,"]]],
   .text ["    pub user: UserResponse,", "\x7d", ""],
   .choose (framework.is "custom")
     [.line ["/// ", node.get "name", " - verifies credentials against the user store"],
      .line ["pub async fn ", handler, "("],
      .text ["    store: &impl UserStore,"],
      .line ["    payload: ", typePrefix, "Request,"],
      .line [") -> Result<", typePrefix, "Response, AuthError> \x7b"]]
     [.choose (framework.is "axum")
        [.line ["/// ", node.get "name", " handler - authenticates a user"],
         .line ["pub async fn ", handler, "("],
         .text ["    State(state): State<AppState>,"],
         .when (config.get "use_jwt").not
           [.text ["    session: Session,"]],
         .line ["    Json(payload): Json<", typePrefix, "Request>,"],
         .line [") -> Result<Json<", typePrefix, "Response>, AuthError> \x7b"],
         .text ["    let store = state.db.as_ref();"]]
        [.line ["/// ", node.get "name", " handler - authenticates a user"],
         .line ["pub async fn ", handler, "("],
         .text ["    state: web::Data<AppState>,"],
         .when (config.get "use_jwt").not
           [.text ["    session: Session,"]],
         .line ["    payload: web::Json<", typePrefix, "Request>,"],
         .text [
           ") -> Result<HttpResponse, AuthError> \x7b",
           "    let store = state.db.as_ref();",
           "    let payload = payload.into_inner();"]]],
   .text ["    let user = store"],
   .line ["        .find_user_by_email(&payload.", identity, ")"],
   .text [
     "        .await?",
     "        .ok_or(AuthError::InvalidCredentials)?;",
     "",
     "    if !verify_password(&payload.password, &user.password_hash)? \x7b",
     "        return Err(AuthError::InvalidCredentials);",
     "    \x7d",
     ""],
   .choose (config.get "use_jwt")
     [.choose (framework.is "custom")
        [.text ["    let token = generate_jwt_token(&user, &get_jwt_secret())?;"],
         .when (config.get "use_refresh_tokens")
           [.text ["    let refresh_token = generate_refresh_token(&user, &get_jwt_secret())?;"]]]
        [.text ["    let token = generate_jwt_token(&user, &state.jwt_secret)?;"],
         .when (config.get "use_refresh_tokens")
           [.text ["    let refresh_token = generate_refresh_token(&user, &state.jwt_secret)?;"]]]]
     [.choose (framework.is "axum")
        [.text [
           "    session",
           "        .insert(\"user_id\", user.id)",
           "        .await",
           "        .map_err(|e| AuthError::SessionError(e.to_string()))?;",
           "    session",
           "        .insert(\"email\", user.email.clone())",
           "        .await",
           "        .map_err(|e| AuthError::SessionError(e.to_string()))?;"]]
        [.when (framework.is "actix")
           [.text [
              "    session",
              "        .insert(\"user_id\", user.id)",
              "        .map_err(|e| AuthError::SessionError(e.to_string()))?;",
              "    session",
              "        .insert(\"email\", user.email.clone())",
              "        .map_err(|e| AuthError::SessionError(e.to_string()))?;"]]]],
   .text [""],
   .line ["    let response = ", typePrefix, "Response \x7b"],
   .when (config.get "use_jwt")
     [.text ["        token,"],
      .when (config.get "use_refresh_tokens")
        [.text ["        refresh_token,"]]],
   .text ["        user: user.into(),", "    \x7d;", ""],
   .choose (framework.is "axum")
     [.text ["    Ok(Json(response))"]]
     [.choose (framework.is "actix")
        [.text ["    Ok(HttpResponse::Ok().json(response))"]]
        [.text ["    Ok(response)"]]],
   .text ["\x7d"]]

/-! ## Registration -/

def register : Template :=
  request ++
  [Block.text ["", "#[derive(Debug, Serialize)]"],
   .line ["pub struct ", typePrefix, "Response \x7b"],
   .when (config.get "use_jwt")
     [.text ["    pub token: String,"]],
   .text ["    pub user: UserResponse,", "\x7d", ""],
   .choose (framework.is "custom")
     [.line ["/// ", node.get "name", " - creates a new user account"],
      .line ["pub async fn ", handler, "("],
      .text ["    store: &impl UserStore,"],
      .line ["    payload: ", typePrefix, "Request,"],
      .line [") -> Result<", typePrefix, "Response, AuthError> \x7b"]]
     [.choose (framework.is "axum")
        [.line ["/// ", node.get "name", " handler - creates a new user account"],
         .line ["pub async fn ", handler, "("],
         .text ["    State(state): State<AppState>,"],
         .line ["    Json(payload): Json<", typePrefix, "Request>,"],
         .line [") -> Result<Json<", typePrefix, "Response>, AuthError> \x7b"],
         .text ["    let store = state.db.as_ref();"]]
        [.line ["/// ", node.get "name", " handler - creates a new user account"],
         .line ["pub async fn ", handler, "("],
         .text ["    state: web::Data<AppState>,"],
         .line ["    payload: web::Json<", typePrefix, "Request>,"],
         .text [
           ") -> Result<HttpResponse, AuthError> \x7b",
           "    let store = state.db.as_ref();",
           "    let payload = payload.into_inner();"]]],
   .text [
     "    if !is_valid_email(&payload.email) \x7b",
     "        return Err(AuthError::InvalidEmail);",
     "    \x7d"],
   .when hasConfirm
     [.text [
        "    if payload.password != payload.confirm_password \x7b",
        "        return Err(AuthError::PasswordMismatch);",
        "    \x7d"]],
   .text [
     "    validate_password_strength(&payload.password)",
     "        .map_err(|msg| AuthError::WeakPassword(msg.to_string()))?;",
     "",
     "    if store.find_user_by_email(&payload.email).await?.is_some() \x7b",
     "        return Err(AuthError::UserAlreadyExists);",
     "    \x7d",
     "",
     "    let password_hash = hash_password(&payload.password)?;",
     "",
     "    let user = store",
     "        .create_user(CreateUser \x7b",
     "            email: payload.email,",
     "            password_hash,"],
   .each "field" createUserFields
     [.choose ((field.get "ident").within provided)
        [.line ["            ", field.get "ident", ": payload.", field.get "ident", ","]]
        [.line ["            ", field.get "ident", ": Default::default(),"]]],
   .text ["        \x7d)", "        .await?;", ""],
   .when (config.get "use_jwt")
     [.choose (framework.is "custom")
        [.text ["    let token = generate_jwt_token(&user, &get_jwt_secret())?;"]]
        [.text ["    let token = generate_jwt_token(&user, &state.jwt_secret)?;"]]],
   .line ["    let response = ", typePrefix, "Response \x7b"],
   .when (config.get "use_jwt")
     [.text ["        token,"]],
   .text ["        user: user.into(),", "    \x7d;", ""],
   .choose (framework.is "axum")
     [.text ["    Ok(Json(response))"]]
     [.choose (framework.is "actix")
        [.text ["    Ok(HttpResponse::Created().json(response))"]]
        [.text ["    Ok(response)"]]],
   .text ["\x7d"]]

/-! ## Logout -/

def logout : Template :=
  [.text ["#[derive(Debug, Serialize)]"],
   .line ["pub struct ", typePrefix, "Response \x7b"],
   .text ["    pub message: String,", "\x7d", ""],
   .choose (framework.is "axum")
     [.choose (config.get "use_jwt")
        [.line ["/// ", node.get "name",
           " handler - JWT logout is completed client-side by discarding the token"],
         .line ["pub async fn ", handler, "(_user: AuthUser) -> Result<Json<", typePrefix,
           "Response>, AuthError> \x7b"]]
        [.line ["/// ", node.get "name", " handler - destroys the session"],
         .line ["pub async fn ", handler, "(session: Session) -> Result<Json<", typePrefix,
           "Response>, AuthError> \x7b"],
         .text [
           "    session",
           "        .flush()",
           "        .await",
           "        .map_err(|e| AuthError::SessionError(e.to_string()))?;",
           ""]],
      .line ["    Ok(Json(", typePrefix, "Response \x7b"],
      .text [
        "        message: \"Logged out successfully\".to_string(),",
        "    \x7d))",
        "\x7d"]]
     [.choose (framework.is "actix")
        [.choose (config.get "use_jwt")
           [.line ["/// ", node.get "name",
              " handler - JWT logout is completed client-side by discarding the token"],
            .line ["pub async fn ", handler, "() -> Result<HttpResponse, AuthError> \x7b"]]
           [.line ["/// ", node.get "name", " handler - destroys the session"],
            .line ["pub async fn ", handler,
              "(session: Session) -> Result<HttpResponse, AuthError> \x7b"],
            .text ["    session.purge();", ""]],
         .line ["    Ok(HttpResponse::Ok().json(", typePrefix, "Response \x7b"],
         .text [
           "        message: \"Logged out successfully\".to_string(),",
           "    \x7d))",
           "\x7d"]]
        [.line ["/// ", node.get "name", " - ends the user's authenticated session"],
         .line ["pub async fn ", handler, "(_user: &AuthUser) -> Result<", typePrefix,
           "Response, AuthError> \x7b"],
         .line ["    Ok(", typePrefix, "Response \x7b"],
         .text [
           "        message: \"Logged out successfully\".to_string(),",
           "    \x7d)",
           "\x7d"]]]]

/-! ## Routes of authentication -/

def routeTable : Template :=
  [.text ["//! Authentication routes", "", "use super::*;"],
   .choose (framework.is "axum")
     [.text [
        "use axum::\x7brouting, Router\x7d;",
        "",
        "/// Router with every authentication endpoint, mounted under /auth",
        "pub fn auth_routes() -> Router<AppState> \x7b",
        "    Router::new()"],
      .each "route" routes
        [.line ["        .route(", (route.get "path").stringLiteral, ", routing::",
           (route.get "method").lower, "(", route.get "handler", "))"]],
      .text ["\x7d"]]
     [.text [
        "use actix_web::web;",
        "",
        "/// Register every authentication endpoint under /auth",
        "pub fn configure_auth_routes(cfg: &mut web::ServiceConfig) \x7b",
        "    cfg.service(",
        "        web::scope(\"/auth\")"],
      .each "route" routes
        [.line ["            .route(", (route.get "path").stringLiteral, ", web::",
           (route.get "method").lower, "().to(", route.get "handler", "))"]],
      .text ["    );", "\x7d"]]]

end Wirework.Service.Templates.Auth
