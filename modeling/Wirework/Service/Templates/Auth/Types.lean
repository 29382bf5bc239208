import Wirework.Service.Templates.Name

/-!
# Types of authentication
-/

namespace Wirework.Service.Templates.Auth

open Template

def types : Template :=
  [.text [
     "/// Authentication errors",
     "#[derive(Debug, thiserror::Error)]",
     "pub enum AuthError \x7b",
     "    #[error(\"Invalid credentials\")]",
     "    InvalidCredentials,",
     "",
     "    #[error(\"User already exists\")]",
     "    UserAlreadyExists,",
     "",
     "    #[error(\"User not found\")]",
     "    UserNotFound,",
     "",
     "    #[error(\"Invalid token\")]",
     "    InvalidToken,",
     "",
     "    #[error(\"Token expired\")]",
     "    TokenExpired,",
     "",
     "    #[error(\"Token generation failed\")]",
     "    TokenGenerationError,",
     "",
     "    #[error(\"Password hash error\")]",
     "    PasswordHashError,",
     "",
     "    #[error(\"Passwords do not match\")]",
     "    PasswordMismatch,",
     "",
     "    #[error(\"Weak password: \x7b0\x7d\")]",
     "    WeakPassword(String),",
     "",
     "    #[error(\"Invalid email address\")]",
     "    InvalidEmail,",
     "",
     "    #[error(\"Unauthorized\")]",
     "    Unauthorized,",
     "",
     "    #[error(\"Forbidden\")]",
     "    Forbidden,",
     "",
     "    #[error(\"Session error: \x7b0\x7d\")]",
     "    SessionError(String),",
     "",
     "    #[error(\"Database error: \x7b0\x7d\")]",
     "    DatabaseError(String),",
     "",
     "    #[error(\"Internal error: \x7b0\x7d\")]",
     "    Internal(String),",
     "\x7d",
     "",
     "impl AuthError \x7b",
     "    /// HTTP status code for this error",
     "    pub fn status(&self) -> u16 \x7b",
     "        match self \x7b",
     "            AuthError::InvalidCredentials",
     "            | AuthError::InvalidToken",
     "            | AuthError::TokenExpired",
     "            | AuthError::Unauthorized => 401,",
     "            AuthError::Forbidden => 403,",
     "            AuthError::UserNotFound => 404,",
     "            AuthError::UserAlreadyExists => 409,",
     "            AuthError::PasswordMismatch | AuthError::WeakPassword(_) | AuthError::InvalidEmail => 422,",
     "            _ => 500,",
     "        \x7d",
     "    \x7d",
     "\x7d"],
   .choose (framework.is "axum")
     [.text [
        "",
        "impl axum::response::IntoResponse for AuthError \x7b",
        "    fn into_response(self) -> axum::response::Response \x7b",
        "        let status = axum::http::StatusCode::from_u16(self.status())",
        "            .unwrap_or(axum::http::StatusCode::INTERNAL_SERVER_ERROR);",
        "        let body = Json(serde_json::json!(\x7b",
        "            \"error\": \x7b",
        "                \"message\": self.to_string(),",
        "                \"code\": status.as_u16(),",
        "            \x7d",
        "        \x7d));",
        "        (status, body).into_response()",
        "    \x7d",
        "\x7d"]]
     [.when (framework.is "actix")
        [.text [
           "",
           "impl actix_web::ResponseError for AuthError \x7b",
           "    fn status_code(&self) -> actix_web::http::StatusCode \x7b",
           "        actix_web::http::StatusCode::from_u16(self.status())",
           "            .unwrap_or(actix_web::http::StatusCode::INTERNAL_SERVER_ERROR)",
           "    \x7d",
           "",
           "    fn error_response(&self) -> HttpResponse \x7b",
           "        HttpResponse::build(self.status_code()).json(serde_json::json!(\x7b",
           "            \"error\": \x7b",
           "                \"message\": self.to_string(),",
           "                \"code\": self.status(),",
           "            \x7d",
           "        \x7d))",
           "    \x7d",
           "\x7d"]]],
   .text [
     "",
     "/// Authenticated user information extracted from token/session",
     "#[derive(Debug, Clone)]",
     "pub struct AuthUser \x7b",
     "    pub id: uuid::Uuid,",
     "    pub email: String,",
     "    pub token: String,",
     "\x7d",
     "",
     "/// Stored user account",
     "#[derive(Debug, Clone, Serialize, Deserialize)]",
     "pub struct UserRecord \x7b",
     "    pub id: uuid::Uuid,",
     "    pub email: String,",
     "    #[serde(skip_serializing)]",
     "    pub password_hash: String,",
     "    pub created_at: chrono::DateTime<chrono::Utc>,",
     "\x7d",
     "",
     "/// Data needed to create a user account",
     "#[derive(Debug, Clone)]",
     "pub struct CreateUser \x7b",
     "    pub email: String,",
     "    pub password_hash: String,"],
   .each "field" createUserFields
     [.line ["    pub ", field.get "ident", ": ", field.get "rust_type", ","]],
   .text [
     "\x7d",
     "",
     "/// Persistence the auth handlers rely on; implement it for the database pool",
     "#[async_trait::async_trait]",
     "pub trait UserStore: Send + Sync \x7b",
     "    async fn find_user_by_email(&self, email: &str) -> Result<Option<UserRecord>, AuthError>;",
     "    async fn create_user(&self, user: CreateUser) -> Result<UserRecord, AuthError>;",
     "\x7d",
     "",
     "/// User response (safe to send to client)",
     "#[derive(Debug, Clone, Serialize, Deserialize)]",
     "pub struct UserResponse \x7b",
     "    pub id: uuid::Uuid,",
     "    pub email: String,",
     "    pub created_at: chrono::DateTime<chrono::Utc>,",
     "\x7d",
     "",
     "impl From<UserRecord> for UserResponse \x7b",
     "    fn from(user: UserRecord) -> Self \x7b",
     "        Self \x7b",
     "            id: user.id,",
     "            email: user.email,",
     "            created_at: user.created_at,",
     "        \x7d",
     "    \x7d",
     "\x7d"]]

end Wirework.Service.Templates.Auth
