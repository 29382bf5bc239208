import Wirework.Migration.Basic
import Wirework.Record.Setting
import Wirework.Service.Options

/-!
# Options in documents
-/

namespace Wirework

open Record

instance : Record Migration.Options where
  read := readRecord fun s => do
    return {
      backend := ← s.fieldOr "backend" .postgres
      schema := ← s.fieldOr "schema_name" none
      indexes := ← s.fieldOr "generate_indexes" true
      timestamps := ← s.fieldOr "add_timestamps" true
      autoIncrement := ← s.fieldOr "use_auto_increment" true }
  toData o := .object [
    ("backend", toData o.backend),
    ("schema_name", toData o.schema),
    ("generate_indexes", toData o.indexes),
    ("add_timestamps", toData o.timestamps),
    ("use_auto_increment", toData o.autoIncrement)]

instance : Record Service.Options where
  read := readRecord fun s => do
    return {
      targetLanguage := ← s.fieldOr "target_language" "rust"
      framework := ← s.fieldOr "framework" none
      database := ← s.fieldOr "database" none
      outputDir := ← s.fieldOr "output_dir" "generated"
      tests := ← s.fieldOr "generate_tests" true
      reference := ← s.fieldOr "generate_docs" true
      migrations := ← s.fieldOr "generate_migrations" true
      migrationBase := ← s.fieldOr "migration_timestamp" none
      extras := ← s.fieldOr "options" .empty }
  toData o := .object [
    ("target_language", toData o.targetLanguage),
    ("framework", toData o.framework),
    ("database", toData o.database),
    ("output_dir", toData o.outputDir),
    ("generate_tests", toData o.tests),
    ("generate_docs", toData o.reference),
    ("generate_migrations", toData o.migrations),
    ("migration_timestamp", toData o.migrationBase),
    ("options", toData o.extras)]

instance : Record Service.AuthOptions where
  read := readRecord fun s => do
    return {
      framework := ← s.fieldOr "framework" .axum
      tokens := ← s.fieldOr "use_jwt" true
      secretVariable := ← s.fieldOr "jwt_secret_env" "JWT_SECRET"
      duration := ← s.fieldOr "session_duration_secs" 86400
      argon2 := ← s.fieldOr "use_argon2" true
      refreshTokens := ← s.fieldOr "use_refresh_tokens" false }
  toData o := .object [
    ("framework", toData o.framework),
    ("use_jwt", toData o.tokens),
    ("jwt_secret_env", toData o.secretVariable),
    ("session_duration_secs", toData o.duration),
    ("use_argon2", toData o.argon2),
    ("use_refresh_tokens", toData o.refreshTokens)]

end Wirework
