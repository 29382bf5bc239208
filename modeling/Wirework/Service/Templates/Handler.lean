import Wirework.Service.Templates.Name

/-!
# Handlers

One handler for each endpoint, the list of all, and the routes to them.
-/

namespace Wirework.Service.Templates

open Template

def handlerFile : Template :=
  [.line ["//! ", endpoint.get "name", " handler"],
   .text ["//!"],
   .line ["//! ", endpoint.get "method", " ", endpoint.get "path"],
   .text [""],
   .choose (framework.is "axum")
     [.text [
        "use axum::\x7bextract::State, response::IntoResponse, Json\x7d;",
        "",
        "use crate::\x7berror::AppError, AppState\x7d;",
        ""],
      .line ["/// ", endpoint.get "name", " handler"],
      .line ["pub async fn ", endpoint.get "handler", "("],
      .text ["    State(_state): State<AppState>,"],
      .when (endpoint.get "has_body")
        [.text ["    Json(payload): Json<serde_json::Value>,"]],
      .text [
        ") -> Result<impl IntoResponse, AppError> \x7b",
        "    Ok(Json(serde_json::json!(\x7b",
        "        \"status\": \"ok\","],
      .line ["        \"handler\": \"", endpoint.get "handler", "\","],
      .when (endpoint.get "has_body")
        [.text ["        \"data\": payload,"]],
      .text ["    \x7d)))", "\x7d"]]
     [.choose (framework.is "actix")
        [.text [
           "use actix_web::\x7bweb, HttpResponse\x7d;",
           "",
           "use crate::\x7berror::AppError, AppState\x7d;",
           ""],
         .line ["/// ", endpoint.get "name", " handler"],
         .line ["pub async fn ", endpoint.get "handler", "("],
         .text ["    _state: web::Data<AppState>,"],
         .when (endpoint.get "has_body")
           [.text ["    payload: web::Json<serde_json::Value>,"]],
         .text [
           ") -> Result<HttpResponse, AppError> \x7b",
           "    Ok(HttpResponse::Ok().json(serde_json::json!(\x7b",
           "        \"status\": \"ok\","],
         .line ["        \"handler\": \"", endpoint.get "handler", "\","],
         .when (endpoint.get "has_body")
           [.text ["        \"data\": payload.into_inner(),"]],
         .text ["    \x7d)))", "\x7d"]]
        [.text ["use crate::error::AppResult;", ""],
         .line ["/// ", endpoint.get "name", " handler function"],
         .line ["pub async fn ", endpoint.get "handler", "("],
         .choose (endpoint.get "has_body")
           [.text [
              "    payload: serde_json::Value,",
              ") -> AppResult<serde_json::Value> \x7b",
              "    Ok(payload)"]]
           [.text [") -> AppResult<()> \x7b", "    Ok(())"]],
         .text ["\x7d"]]]]

def handlerIndex : Template :=
  [.text ["//! API handlers", ""],
   .each "endpoint" endpoints
     [.line ["pub mod ", endpoint.get "module", ";"]]]

def routeTable : Template :=
  [.text ["//! Application routes", ""],
   .choose (framework.is "axum")
     [.text [
        "use axum::\x7brouting, Router\x7d;",
        "",
        "use crate::\x7bhandlers, AppState\x7d;",
        "",
        "/// Build the router for all API endpoints",
        "pub fn create_router() -> Router<AppState> \x7b",
        "    Router::new()"],
      .each "endpoint" endpoints
        [.line ["        .route(", (endpoint.get "path").stringLiteral, ", routing::",
           endpoint.get "method_fn", "(handlers::", endpoint.get "module", "::",
           endpoint.get "handler", "))"]],
      .text ["\x7d"]]
     [.choose (framework.is "actix")
        [.text [
           "use actix_web::web;",
           "",
           "use crate::handlers;",
           "",
           "/// Register all API endpoints",
           "pub fn configure_routes(cfg: &mut web::ServiceConfig) \x7b"],
         .each "endpoint" endpoints
           [.line ["    cfg.route(", (endpoint.get "path").stringLiteral, ", web::",
              endpoint.get "method_fn", "().to(handlers::", endpoint.get "module", "::",
              endpoint.get "handler", "));"]],
         .text ["\x7d"]]
        [.text [
           "/// (method, path, handler) for every API endpoint",
           "pub const ROUTES: &[(&str, &str, &str)] = &["],
         .each "endpoint" endpoints
           [.line ["    (", (endpoint.get "method").stringLiteral, ", ",
              (endpoint.get "path").stringLiteral, ", ", (endpoint.get "handler").stringLiteral,
              "),"]],
         .text ["];"]]]]

end Wirework.Service.Templates
