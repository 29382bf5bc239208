import Wirework.Service.Templates.Name

/-!
# Errors of a service
-/

namespace Wirework.Service.Templates

open Template

def errors : Template :=
  [.text [
     "//! Application error types",
     "//!",
     "//! Centralized error handling for the application.",
     ""],
   .choose (framework.is "axum")
     [.text [
        "use axum::\x7b",
        "    http::StatusCode,",
        "    response::\x7bIntoResponse, Response\x7d,",
        "    Json,",
        "\x7d;",
        "use serde_json::json;"]]
     [.when (framework.is "actix")
        [.text [
           "use actix_web::\x7bhttp::StatusCode, HttpResponse, ResponseError\x7d;",
           "use serde_json::json;"]]],
   .text [
     "use thiserror::Error;",
     "",
     "/// Application error type",
     "#[derive(Debug, Error)]",
     "pub enum AppError \x7b",
     "    #[error(\"Not found: \x7b0\x7d\")]",
     "    NotFound(String),",
     "",
     "    #[error(\"Bad request: \x7b0\x7d\")]",
     "    BadRequest(String),",
     "",
     "    #[error(\"Unauthorized\")]",
     "    Unauthorized,",
     "",
     "    #[error(\"Forbidden\")]",
     "    Forbidden,",
     "",
     "    #[error(\"Conflict: \x7b0\x7d\")]",
     "    Conflict(String),",
     "",
     "    #[error(\"Validation error: \x7b0\x7d\")]",
     "    Validation(String),",
     ""],
   .choose (framework.is "custom")
     [.text [
        "    #[error(\"Database error: \x7b0\x7d\")]",
        "    Database(String),",
        "",
        "    #[error(\"Internal server error: \x7b0\x7d\")]",
        "    Internal(String),",
        "",
        "    #[error(\"IO error: \x7b0\x7d\")]",
        "    Io(#[from] std::io::Error),"]]
     [.text [
        "    #[error(\"Database error: \x7b0\x7d\")]",
        "    Database(#[from] sqlx::Error),",
        "",
        "    #[error(\"Internal server error: \x7b0\x7d\")]",
        "    Internal(String),",
        "",
        "    #[error(transparent)]",
        "    Other(#[from] anyhow::Error),"]],
   .text ["\x7d"],
   .choose (framework.is "axum")
     [.text [
        "",
        "impl IntoResponse for AppError \x7b",
        "    fn into_response(self) -> Response \x7b",
        "        let (status, message) = match &self \x7b",
        "            AppError::NotFound(msg) => (StatusCode::NOT_FOUND, msg.clone()),",
        "            AppError::BadRequest(msg) => (StatusCode::BAD_REQUEST, msg.clone()),",
        "            AppError::Unauthorized => (StatusCode::UNAUTHORIZED, \"Unauthorized\".to_string()),",
        "            AppError::Forbidden => (StatusCode::FORBIDDEN, \"Forbidden\".to_string()),",
        "            AppError::Conflict(msg) => (StatusCode::CONFLICT, msg.clone()),",
        "            AppError::Validation(msg) => (StatusCode::UNPROCESSABLE_ENTITY, msg.clone()),",
        "            AppError::Database(e) => \x7b",
        "                tracing::error!(\"Database error: \x7b:?\x7d\", e);",
        "                (StatusCode::INTERNAL_SERVER_ERROR, \"Database error\".to_string())",
        "            \x7d",
        "            AppError::Internal(msg) => \x7b",
        "                tracing::error!(\"Internal error: \x7b\x7d\", msg);",
        "                (StatusCode::INTERNAL_SERVER_ERROR, \"Internal server error\".to_string())",
        "            \x7d",
        "            AppError::Other(e) => \x7b",
        "                tracing::error!(\"Unexpected error: \x7b:?\x7d\", e);",
        "                (StatusCode::INTERNAL_SERVER_ERROR, \"Internal server error\".to_string())",
        "            \x7d",
        "        \x7d;",
        "",
        "        let body = Json(json!(\x7b",
        "            \"error\": \x7b",
        "                \"message\": message,",
        "                \"code\": status.as_u16(),",
        "            \x7d",
        "        \x7d));",
        "",
        "        (status, body).into_response()",
        "    \x7d",
        "\x7d"]]
     [.when (framework.is "actix")
        [.text [
           "",
           "impl ResponseError for AppError \x7b",
           "    fn status_code(&self) -> StatusCode \x7b",
           "        match self \x7b",
           "            AppError::NotFound(_) => StatusCode::NOT_FOUND,",
           "            AppError::BadRequest(_) => StatusCode::BAD_REQUEST,",
           "            AppError::Unauthorized => StatusCode::UNAUTHORIZED,",
           "            AppError::Forbidden => StatusCode::FORBIDDEN,",
           "            AppError::Conflict(_) => StatusCode::CONFLICT,",
           "            AppError::Validation(_) => StatusCode::UNPROCESSABLE_ENTITY,",
           "            AppError::Database(_) | AppError::Internal(_) | AppError::Other(_) => \x7b",
           "                StatusCode::INTERNAL_SERVER_ERROR",
           "            \x7d",
           "        \x7d",
           "    \x7d",
           "",
           "    fn error_response(&self) -> HttpResponse \x7b",
           "        let message = match self \x7b",
           "            AppError::NotFound(msg)",
           "            | AppError::BadRequest(msg)",
           "            | AppError::Conflict(msg)",
           "            | AppError::Validation(msg) => msg.clone(),",
           "            AppError::Unauthorized => \"Unauthorized\".to_string(),",
           "            AppError::Forbidden => \"Forbidden\".to_string(),",
           "            AppError::Database(e) => \x7b",
           "                tracing::error!(\"Database error: \x7b:?\x7d\", e);",
           "                \"Database error\".to_string()",
           "            \x7d",
           "            AppError::Internal(msg) => \x7b",
           "                tracing::error!(\"Internal error: \x7b\x7d\", msg);",
           "                \"Internal server error\".to_string()",
           "            \x7d",
           "            AppError::Other(e) => \x7b",
           "                tracing::error!(\"Unexpected error: \x7b:?\x7d\", e);",
           "                \"Internal server error\".to_string()",
           "            \x7d",
           "        \x7d;",
           "",
           "        HttpResponse::build(self.status_code()).json(json!(\x7b",
           "            \"error\": \x7b",
           "                \"message\": message,",
           "                \"code\": self.status_code().as_u16(),",
           "            \x7d",
           "        \x7d))",
           "    \x7d",
           "\x7d"]]],
   .text [
     "",
     "/// Result type alias for handlers",
     "pub type AppResult<T> = Result<T, AppError>;",
     "",
     "/// Helper to convert Option to NotFound error",
     "pub trait OptionExt<T> \x7b",
     "    fn or_not_found(self, message: impl Into<String>) -> AppResult<T>;",
     "\x7d",
     "",
     "impl<T> OptionExt<T> for Option<T> \x7b",
     "    fn or_not_found(self, message: impl Into<String>) -> AppResult<T> \x7b",
     "        self.ok_or_else(|| AppError::NotFound(message.into()))",
     "    \x7d",
     "\x7d"]]

end Wirework.Service.Templates
