import Wirework.Service.Templates.Name

/-!
# Support for authentication, and sessions
-/

namespace Wirework.Service.Templates.Auth

open Template

/-! ## Support for authentication -/

def support : Template :=
  [.choose (config.get "use_argon2")
     [.text [
        "use argon2::\x7b",
        "    password_hash::\x7brand_core::OsRng, PasswordHash, PasswordHasher, PasswordVerifier, SaltString\x7d,",
        "    Argon2,",
        "\x7d;",
        "",
        "/// Hash a password using Argon2",
        "pub fn hash_password(password: &str) -> Result<String, AuthError> \x7b",
        "    let salt = SaltString::generate(&mut OsRng);",
        "    Argon2::default()",
        "        .hash_password(password.as_bytes(), &salt)",
        "        .map(|hash| hash.to_string())",
        "        .map_err(|_| AuthError::PasswordHashError)",
        "\x7d",
        "",
        "/// Verify a password against a hash",
        "pub fn verify_password(password: &str, hash: &str) -> Result<bool, AuthError> \x7b",
        "    let parsed_hash = PasswordHash::new(hash).map_err(|_| AuthError::PasswordHashError)?;",
        "    Ok(Argon2::default()",
        "        .verify_password(password.as_bytes(), &parsed_hash)",
        "        .is_ok())",
        "\x7d"]]
     [.text [
        "/// Hash a password using bcrypt",
        "pub fn hash_password(password: &str) -> Result<String, AuthError> \x7b",
        "    bcrypt::hash(password, bcrypt::DEFAULT_COST).map_err(|_| AuthError::PasswordHashError)",
        "\x7d",
        "",
        "/// Verify a password against a hash",
        "pub fn verify_password(password: &str, hash: &str) -> Result<bool, AuthError> \x7b",
        "    bcrypt::verify(password, hash).map_err(|_| AuthError::PasswordHashError)",
        "\x7d"]],
   .when (config.get "use_jwt")
     [.text [
        "",
        "use jsonwebtoken::\x7bdecode, encode, Algorithm, DecodingKey, EncodingKey, Header, Validation\x7d;",
        "",
        "/// Token lifetime in seconds"],
      .line ["pub const TOKEN_TTL_SECS: i64 = ", config.get "session_duration_secs", ";"],
      .text [
        "",
        "/// JWT claims",
        "#[derive(Debug, Serialize, Deserialize)]",
        "pub struct Claims \x7b",
        "    /// User id",
        "    pub sub: String,",
        "    pub email: String,",
        "    /// Expiration timestamp",
        "    pub exp: usize,",
        "    /// Issued-at timestamp",
        "    pub iat: usize,",
        "\x7d",
        "",
        "/// Generate a JWT token for a user",
        "pub fn generate_jwt_token(user: &UserRecord, secret: &str) -> Result<String, AuthError> \x7b",
        "    let now = chrono::Utc::now();",
        "    let claims = Claims \x7b",
        "        sub: user.id.to_string(),",
        "        email: user.email.clone(),",
        "        exp: (now + chrono::Duration::seconds(TOKEN_TTL_SECS)).timestamp() as usize,",
        "        iat: now.timestamp() as usize,",
        "    \x7d;",
        "",
        "    encode(",
        "        &Header::default(),",
        "        &claims,",
        "        &EncodingKey::from_secret(secret.as_bytes()),",
        "    )",
        "    .map_err(|_| AuthError::TokenGenerationError)",
        "\x7d"],
      .when (config.get "use_refresh_tokens")
        [.text [
           "",
           "/// Refresh token lifetime in seconds",
           "pub const REFRESH_TTL_SECS: i64 = TOKEN_TTL_SECS * 30;",
           "",
           "/// Generate a long-lived refresh token for a user",
           "pub fn generate_refresh_token(user: &UserRecord, secret: &str) -> Result<String, AuthError> \x7b",
           "    let now = chrono::Utc::now();",
           "    let claims = Claims \x7b",
           "        sub: user.id.to_string(),",
           "        email: user.email.clone(),",
           "        exp: (now + chrono::Duration::seconds(REFRESH_TTL_SECS)).timestamp() as usize,",
           "        iat: now.timestamp() as usize,",
           "    \x7d;",
           "",
           "    encode(",
           "        &Header::default(),",
           "        &claims,",
           "        &EncodingKey::from_secret(secret.as_bytes()),",
           "    )",
           "    .map_err(|_| AuthError::TokenGenerationError)",
           "\x7d"]],
      .text [
        "",
        "/// Decode and validate a JWT token",
        "pub fn decode_jwt_token(token: &str, secret: &str) -> Result<Claims, AuthError> \x7b",
        "    decode::<Claims>(",
        "        token,",
        "        &DecodingKey::from_secret(secret.as_bytes()),",
        "        &Validation::new(Algorithm::HS256),",
        "    )",
        "    .map(|data| data.claims)",
        "    .map_err(|_| AuthError::InvalidToken)",
        "\x7d",
        "",
        "/// Get the JWT secret from the environment",
        "pub fn get_jwt_secret() -> String \x7b"],
      .line ["    std::env::var(\"", config.get "jwt_secret_env", "\").expect(\"",
        config.get "jwt_secret_env", " must be set\")"],
      .text ["\x7d"]],
   .text [
     "",
     "/// Validate email format",
     "pub fn is_valid_email(email: &str) -> bool \x7b",
     "    email.contains('@') && email.contains('.') && email.len() > 5",
     "\x7d",
     "",
     "/// Validate password strength",
     "pub fn validate_password_strength(password: &str) -> Result<(), &'static str> \x7b",
     "    if password.len() < 8 \x7b",
     "        return Err(\"Password must be at least 8 characters long\");",
     "    \x7d",
     "    if !password.chars().any(|c| c.is_uppercase()) \x7b",
     "        return Err(\"Password must contain at least one uppercase letter\");",
     "    \x7d",
     "    if !password.chars().any(|c| c.is_lowercase()) \x7b",
     "        return Err(\"Password must contain at least one lowercase letter\");",
     "    \x7d",
     "    if !password.chars().any(|c| c.is_numeric()) \x7b",
     "        return Err(\"Password must contain at least one number\");",
     "    \x7d",
     "    Ok(())",
     "\x7d"]]

/-! ## Sessions -/

def session : Template :=
  [.text [
     "/// Cookie SameSite policy",
     "#[derive(Debug, Clone, Copy, PartialEq, Eq)]",
     "pub enum SameSite \x7b",
     "    Strict,",
     "    Lax,",
     "    None,",
     "\x7d",
     "",
     "/// Session configuration",
     "#[derive(Debug, Clone)]",
     "pub struct SessionConfig \x7b",
     "    /// Session duration in seconds",
     "    pub duration_secs: u64,",
     "    /// Cookie name",
     "    pub cookie_name: &'static str,",
     "    /// Whether the cookie is secure (HTTPS only)",
     "    pub secure: bool,",
     "    /// Whether the cookie is HTTP only",
     "    pub http_only: bool,",
     "    /// Same site policy",
     "    pub same_site: SameSite,",
     "\x7d",
     "",
     "impl Default for SessionConfig \x7b",
     "    fn default() -> Self \x7b",
     "        Self \x7b"],
   .line ["            duration_secs: ", durationSecs, ","],
   .line ["            cookie_name: ", cookieName.stringLiteral, ","],
   .text [
     "            secure: true,",
     "            http_only: true,",
     "            same_site: SameSite::Strict,",
     "        \x7d",
     "    \x7d",
     "\x7d",
     "",
     "/// Session data stored in the session store",
     "#[derive(Debug, Clone, Serialize, Deserialize)]",
     "pub struct SessionData \x7b",
     "    pub user_id: uuid::Uuid,",
     "    pub created_at: chrono::DateTime<chrono::Utc>,",
     "    pub expires_at: chrono::DateTime<chrono::Utc>,",
     "    pub ip_address: Option<String>,",
     "    pub user_agent: Option<String>,",
     "\x7d",
     "",
     "impl SessionData \x7b",
     "    pub fn new(user_id: uuid::Uuid) -> Self \x7b",
     "        let now = chrono::Utc::now();",
     "        Self \x7b",
     "            user_id,",
     "            created_at: now,"],
   .line ["            expires_at: now + chrono::Duration::seconds(", durationSecs, "),"],
   .text [
     "            ip_address: None,",
     "            user_agent: None,",
     "        \x7d",
     "    \x7d",
     "",
     "    pub fn is_expired(&self) -> bool \x7b",
     "        chrono::Utc::now() > self.expires_at",
     "    \x7d",
     "",
     "    pub fn refresh(&mut self) \x7b"],
   .line ["        self.expires_at = chrono::Utc::now() + chrono::Duration::seconds(",
     durationSecs, ");"],
   .text ["    \x7d", "\x7d"]]

end Wirework.Service.Templates.Auth
