import Wirework.Service.Templates.Name

/-!
# Configuration of a service
-/

namespace Wirework.Service.Templates

open Template

def configuration : Template :=
  [.text [
     "//! Application configuration",
     "//!",
     "//! Configuration is loaded from environment variables.",
     "",
     "use std::env;",
     "",
     "/// Application configuration",
     "#[derive(Debug, Clone)]",
     "pub struct Config \x7b",
     "    /// Server host address",
     "    pub host: String,",
     "    /// Server port",
     "    pub port: u16,",
     "    /// Database connection URL",
     "    pub database_url: String,",
     "    /// JWT secret for authentication",
     "    pub jwt_secret: Option<String>,",
     "    /// JWT token expiry in hours",
     "    pub jwt_expiry_hours: u64,",
     "    /// Environment (development, production, test)",
     "    pub environment: Environment,",
     "\x7d",
     "",
     "/// Runtime environment",
     "#[derive(Debug, Clone, Copy, PartialEq, Eq)]",
     "pub enum Environment \x7b",
     "    Development,",
     "    Production,",
     "    Test,",
     "\x7d",
     "",
     "impl Environment \x7b",
     "    pub fn parse(s: &str) -> Self \x7b",
     "        match s.to_lowercase().as_str() \x7b",
     "            \"production\" | \"prod\" => Self::Production,",
     "            \"test\" => Self::Test,",
     "            _ => Self::Development,",
     "        \x7d",
     "    \x7d",
     "",
     "    pub fn is_development(&self) -> bool \x7b",
     "        matches!(self, Self::Development)",
     "    \x7d",
     "",
     "    pub fn is_production(&self) -> bool \x7b",
     "        matches!(self, Self::Production)",
     "    \x7d",
     "",
     "    pub fn is_test(&self) -> bool \x7b",
     "        matches!(self, Self::Test)",
     "    \x7d",
     "\x7d",
     "",
     "impl Config \x7b",
     "    /// Load configuration from environment variables",
     "    pub fn from_env() -> anyhow::Result<Self> \x7b",
     "        Ok(Self \x7b",
     "            host: env::var(\"HOST\").unwrap_or_else(|_| \"127.0.0.1\".to_string()),",
     "            port: env::var(\"PORT\")"],
   .line ["                .unwrap_or_else(|_| \"", defaultPort, "\".to_string())"],
   .text [
     "                .parse()?,",
     "            database_url: env::var(\"DATABASE_URL\")?,"],
   .line ["            jwt_secret: env::var(\"", jwtSecretEnv, "\").ok(),"],
   .text [
     "            jwt_expiry_hours: env::var(\"JWT_EXPIRY_HOURS\")",
     "                .unwrap_or_else(|_| \"24\".to_string())",
     "                .parse()",
     "                .unwrap_or(24),",
     "            environment: Environment::parse(",
     "                &env::var(\"ENVIRONMENT\").unwrap_or_else(|_| \"development\".to_string()),",
     "            ),",
     "        \x7d)",
     "    \x7d",
     "",
     "    /// Get the full server address",
     "    pub fn server_addr(&self) -> String \x7b",
     "        format!(\"\x7b\x7d:\x7b\x7d\", self.host, self.port)",
     "    \x7d",
     "",
     "    pub fn is_development(&self) -> bool \x7b",
     "        self.environment.is_development()",
     "    \x7d",
     "",
     "    pub fn is_production(&self) -> bool \x7b",
     "        self.environment.is_production()",
     "    \x7d",
     "\x7d",
     "",
     "impl Default for Config \x7b",
     "    fn default() -> Self \x7b",
     "        Self \x7b",
     "            host: \"127.0.0.1\".to_string(),"],
   .line ["            port: ", defaultPort, ","],
   .text [
     "            database_url: String::new(),",
     "            jwt_secret: None,",
     "            jwt_expiry_hours: 24,",
     "            environment: Environment::Development,",
     "        \x7d",
     "    \x7d",
     "\x7d",
     ""],
   .line ["/// Database connection pool (", databaseName, ")"],
   .line ["pub type DatabasePool = ", poolType, ";"],
   .text [
     "",
     "/// Initialize the database connection pool",
     "pub async fn init_database(database_url: &str) -> anyhow::Result<DatabasePool> \x7b",
     "    let pool = DatabasePool::connect(database_url).await?;"],
   .when hasMigrations
     [.text ["    sqlx::migrate!(\"./migrations\").run(&pool).await?;"]],
   .text ["    Ok(pool)", "\x7d", ""],
   .when generateTests
     [.text [
        "#[cfg(test)]",
        "mod tests \x7b",
        "    use super::*;",
        "",
        "    #[test]",
        "    fn test_environment_parse() \x7b",
        "        assert_eq!(Environment::parse(\"development\"), Environment::Development);",
        "        assert_eq!(Environment::parse(\"prod\"), Environment::Production);",
        "        assert_eq!(Environment::parse(\"test\"), Environment::Test);",
        "        assert_eq!(Environment::parse(\"unknown\"), Environment::Development);",
        "    \x7d",
        "",
        "    #[test]",
        "    fn test_config_server_addr() \x7b",
        "        let config = Config \x7b",
        "            host: \"0.0.0.0\".to_string(),",
        "            port: 8080,",
        "            ..Default::default()",
        "        \x7d;",
        "        assert_eq!(config.server_addr(), \"0.0.0.0:8080\");",
        "    \x7d",
        "\x7d"]]]

end Wirework.Service.Templates
