import Wirework.Service.Templates.Name

/-!
# Entry points

The program and the root of its library.
-/

namespace Wirework.Service.Templates

open Template

def mainProgram : Template :=
  [.line ["//! ", name, " - Generated by Immortal Engine"],
   .text ["//!"],
   .line ["//! ", description],
   .text [""],
   .choose (framework.is "axum")
     [.line ["use ", crateName, "::\x7bcreate_app, Config\x7d;"],
      .text [
        "use tracing_subscriber::\x7blayer::SubscriberExt, util::SubscriberInitExt\x7d;",
        "",
        "#[tokio::main]",
        "async fn main() -> anyhow::Result<()> \x7b",
        "    // Load environment variables",
        "    dotenv::dotenv().ok();",
        "",
        "    tracing_subscriber::registry()",
        "        .with(",
        "            tracing_subscriber::EnvFilter::try_from_default_env()"],
      .line ["                .unwrap_or_else(|_| \"", crateName,
        "=debug,tower_http=debug\".into()),"],
      .text [
        "        )",
        "        .with(tracing_subscriber::fmt::layer())",
        "        .init();",
        "",
        "    let config = Config::from_env()?;",
        "    let addr = config.server_addr();",
        "    let app = create_app(config).await?;",
        ""],
      .line ["    tracing::info!(\"Starting ", name, " on \x7b\x7d\", addr);"],
      .text [
        "",
        "    let listener = tokio::net::TcpListener::bind(&addr).await?;",
        "    axum::serve(listener, app).await?;",
        "",
        "    Ok(())",
        "\x7d"]]
     [.choose (framework.is "actix")
        [.line ["use ", crateName, "::\x7bcreate_app, Config\x7d;"],
         .text [
           "use tracing_subscriber::\x7blayer::SubscriberExt, util::SubscriberInitExt\x7d;",
           "",
           "#[actix_web::main]",
           "async fn main() -> std::io::Result<()> \x7b",
           "    // Load environment variables",
           "    dotenv::dotenv().ok();",
           "",
           "    tracing_subscriber::registry()",
           "        .with(",
           "            tracing_subscriber::EnvFilter::try_from_default_env()"],
         .line ["                .unwrap_or_else(|_| \"", crateName, "=debug\".into()),"],
         .text [
           "        )",
           "        .with(tracing_subscriber::fmt::layer())",
           "        .init();",
           "",
           "    let config = Config::from_env().expect(\"Failed to load config\");",
           ""],
         .line ["    tracing::info!(\"Starting ", name, " on \x7b\x7d\", config.server_addr());"],
         .text ["", "    create_app(config).await?.await", "\x7d"]]
        [.line ["use ", crateName, "::Config;"],
         .text [
           "",
           "#[tokio::main]",
           "async fn main() -> anyhow::Result<()> \x7b",
           "    // Load environment variables",
           "    dotenv::dotenv().ok();",
           "",
           "    tracing_subscriber::fmt::init();",
           "",
           "    let config = Config::from_env()?;",
           ""],
         .line ["    tracing::info!(\"Starting ", name, " (\x7b:?\x7d)\", config.environment);"],
         .text ["", "    Ok(())", "\x7d"]]]]

def libraryRoot : Template :=
  [.line ["//! ", name, " library"],
   .text ["//!", "//! Generated by Immortal Engine", ""],
   .each "module" modules
     [.line ["pub mod ", moduleName, ";"]],
   .text ["", "pub use config::\x7bConfig, DatabasePool\x7d;"],
   .choose (framework.is "axum")
     [.text [
        "",
        "use axum::Router;",
        "",
        "/// Application state shared across handlers",
        "#[derive(Clone)]",
        "pub struct AppState \x7b",
        "    pub db: std::sync::Arc<DatabasePool>,",
        "    pub config: Config,"],
      .when useJwt
        [.text ["    pub jwt_secret: String,"]],
      .text [
        "\x7d",
        "",
        "/// Create the application with all routes configured",
        "pub async fn create_app(config: Config) -> anyhow::Result<Router> \x7b",
        "    let db = config::init_database(&config.database_url).await?;",
        "",
        "    let state = AppState \x7b",
        "        db: std::sync::Arc::new(db),"],
      .when useJwt
        [.text ["        jwt_secret: config.jwt_secret.clone().unwrap_or_default(),"]],
      .text [
        "        config,",
        "    \x7d;",
        "",
        "    let app = Router::new()"],
      .when hasApi
        [.text ["        .merge(routes::create_router())"]],
      .when hasAuthRoutes
        [.text ["        .nest(\"/auth\", auth::routes::auth_routes())"]],
      .text [
        "        .with_state(state)",
        "        .layer(tower_http::trace::TraceLayer::new_for_http());",
        "",
        "    Ok(app)",
        "\x7d"]]
     [.when (framework.is "actix")
        [.text [
           "",
           "use actix_web::\x7bweb, App, HttpServer\x7d;",
           "",
           "/// Application state shared across handlers",
           "#[derive(Clone)]",
           "pub struct AppState \x7b",
           "    pub db: std::sync::Arc<DatabasePool>,",
           "    pub config: Config,"],
         .when useJwt
           [.text ["    pub jwt_secret: String,"]],
         .text [
           "\x7d",
           "",
           "/// Create the HTTP server with all routes configured",
           "pub async fn create_app(config: Config) -> std::io::Result<actix_web::dev::Server> \x7b",
           "    let db = config::init_database(&config.database_url)",
           "        .await",
           "        .expect(\"Failed to connect to database\");",
           "    let addr = config.server_addr();",
           "",
           "    let state = web::Data::new(AppState \x7b",
           "        db: std::sync::Arc::new(db),"],
         .when useJwt
           [.text ["        jwt_secret: config.jwt_secret.clone().unwrap_or_default(),"]],
         .text [
           "        config,",
           "    \x7d);",
           "",
           "    let server = HttpServer::new(move || \x7b",
           "        App::new()",
           "            .app_data(state.clone())"],
         .when hasApi
           [.text ["            .configure(routes::configure_routes)"]],
         .when hasAuthRoutes
           [.text ["            .configure(auth::routes::configure_auth_routes)"]],
         .text [
           "    \x7d)",
           "    .bind(addr)?",
           "    .run();",
           "",
           "    Ok(server)",
           "\x7d"]]]]

end Wirework.Service.Templates
