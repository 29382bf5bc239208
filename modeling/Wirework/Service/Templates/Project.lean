import Wirework.Service.Templates.Name

/-!
# Files about the project

The manifest of the crate, the sample environment and the read-me.
-/

namespace Wirework.Service.Templates

open Template

def cargoManifest : Template :=
  [.text ["[package]"],
   .line ["name = \"", crateName, "\""],
   .line ["version = \"", version, "\""],
   .text ["edition = \"2021\""],
   .line ["description = ", description.stringLiteral],
   .text [
     "",
     "# See more keys and their definitions at https://doc.rust-lang.org/cargo/reference/manifest.html",
     "",
     "[dependencies]"],
   .eachPair "name" "spec" dependencies
     [.line [name, " = ", requirement]],
   .text [
     "",
     "[dev-dependencies]",
     "tokio-test = \"0.4\"",
     "",
     "[[bin]]"],
   .line ["name = \"", crateName, "\""],
   .text ["path = \"src/main.rs\""]]

def envExample : Template :=
  [.line ["# ", name, " Environment Variables"],
   .text [
     "# Copy this to .env and fill in the values",
     "",
     "# Server",
     "HOST=127.0.0.1"],
   .line ["PORT=", defaultPort],
   .text [""],
   .line ["# Database (", databaseName, ")"],
   .line ["DATABASE_URL=", databaseUrl],
   .when hasAuth
     [.text ["", "# Authentication"],
      .line [jwtSecretEnv, "=your-super-secret-jwt-key-change-in-production"],
      .line ["JWT_EXPIRY_HOURS=", jwtExpiryHours]],
   .text ["", "# Logging", "RUST_LOG=debug"]]

def readme : Template :=
  [.line ["# ", name],
   .text [""],
   .line [description],
   .text [""],
   .line ["Generated by Immortal Engine (", frameworkName, " + ", databaseName, ")."],
   .text [
     "",
     "## Getting Started",
     "",
     "### Prerequisites",
     "",
     "- Rust 1.75+"],
   .line ["- ", databaseName, " database"],
   .text [
     "",
     "### Setup",
     "",
     "1. Copy the environment file:",
     "   ```bash",
     "   cp .env.example .env",
     "   ```",
     "",
     "2. Edit `.env` with your configuration"],
   .when hasMigrations
     [.text [
        "",
        "3. Run database migrations:",
        "   ```bash",
        "   sqlx migrate run",
        "   ```"]],
   .text [""],
   .line [Expr.choose hasMigrations (Expr.int 4) (Expr.int 3), ". Start the server:"],
   .text [
     "   ```bash",
     "   cargo run",
     "   ```",
     "",
     "## Project Structure",
     "",
     "```",
     "src/",
     "├── main.rs          # Application entry point",
     "├── lib.rs           # Library root with app setup",
     "├── config.rs        # Configuration management",
     "├── error.rs         # Error types"],
   .when entities
     [.text ["├── models/          # Data models"]],
   .when endpoints
     [.text [
        "├── handlers/        # API handlers",
        "├── routes.rs        # Route configuration"]],
   .when hasAuth
     [.text ["└── auth/            # Authentication"]],
   .when hasMigrations
     [.text ["migrations/          # SQL migrations"]],
   .text ["```"],
   .when (withReference.both entities)
     [.text ["", "## Models", ""],
      .each "entity" entities
        [.line ["- `", (entity.get "name").pascal, "` (", (entity.get "fields").size, " field",
           Expr.choose ((entity.get "fields").size.equals (Expr.int 1)) (Expr.text "") (Expr.text "s"),
           ")"]]],
   .when (withReference.both endpoints)
     [.text [
        "",
        "## API Endpoints",
        "",
        "| Method | Path | Handler |",
        "|--------|------|---------|"],
      .each "endpoint" endpoints
        [.line ["| ", endpoint.get "method", " | `", endpoint.get "path", "` | `",
           endpoint.get "handler", "` |"]]],
   .when (withReference.both authRoutes)
     [.text [
        "",
        "## Authentication Endpoints",
        "",
        "| Method | Path | Handler |",
        "|--------|------|---------|"],
      .each "route" authRoutes
        [.line ["| ", route.get "method", " | `/auth", route.get "path", "` | `",
           route.get "handler", "` |"]]],
   .text [
     "",
     "## Development",
     "",
     "```bash",
     "cargo test",
     "cargo fmt",
     "cargo clippy",
     "```"]]

end Wirework.Service.Templates
