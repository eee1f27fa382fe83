import Jukebox.Settings.Duration
import Jukebox.Settings.Environment
import Jukebox.Text.Integer
import Jukebox.Text.Lower
import Jukebox.Json

set_option autoImplicit false

/-! # Settings

The settings of a run are read from an environment:

* `DATABASE_URL` names the database outright; otherwise `DB_HOST` (default `localhost`),
  `DB_PORT` (default 5432), `DB_USER`, `DB_PASSWORD`, `DB_NAME` and `DB_SSLMODE` (default
  `disable`) describe it, and a URL is assembled when both a user and a database name are given;
* `DB_PING_TIMEOUT` (default `30s`) is a duration, read before anything else;
* `LOG_LEVEL` (default `info`) and `LOG_FORMAT` (default `json`) are lowercased.

A variable set to the empty text counts as unset. Reading fails on a timeout that is not a
duration or a `DB_PORT` that is not a decimal integer; then the settings are checked, and every
check that fails is listed, in a fixed order.
-/

namespace Jukebox.Settings

/-- Where the catalog's database is. -/
structure Database where
  url : String
  host : String
  tcpPort : Int
  user : String
  password : String
  name : String
  sslMode : String
  pingTimeout : Duration
deriving DecidableEq, Repr

/-- How the program logs. -/
structure Logging where
  level : String
  format : String
deriving DecidableEq, Repr

/-- The settings of a run. -/
structure Config where
  database : Database
  logging : Logging
deriving DecidableEq, Repr

/-- A setting that does not pass its check. -/
inductive Check where
  | logLevel
  | logFormat
  | portRange
  | pingTimeout
deriving DecidableEq, Repr

/-- The sentence that explains a failed check. -/
def Check.message : Check → String
  | .logLevel => "LOG_LEVEL must be one of: debug, info, warn, error"
  | .logFormat => "LOG_FORMAT must be either json or text"
  | .portRange => "DB_PORT must be between 1 and 65535"
  | .pingTimeout => "DB_PING_TIMEOUT must be positive"

/-- Why settings cannot be had. -/
inductive ConfigError where
  /-- The ping timeout is not a duration. -/
  | pingTimeout (text : String) (problem : Duration.Problem)
  /-- `DB_PORT` is not a decimal integer. -/
  | badPort (failure : Text.Integer.Failure)
  /-- Some checks failed, in this order. -/
  | checks (failed : List Check)
deriving DecidableEq, Repr

/-- The error's text. -/
def ConfigError.message : ConfigError → String
  | .pingTimeout s p => "load database config: invalid DB_PING_TIMEOUT: " ++ p.message s
  | .badPort f => "load database config: invalid DB_PORT: " ++ f.message
  | .checks cs =>
    "validate config: configuration errors:" ++
      String.join (cs.map fun c => "\n  - " ++ c.message)

namespace Config

/-- The database settings of an environment. -/
def readDatabase (env : Environment) : Except ConfigError Database := do
  let timeoutText := env.valueOr "DB_PING_TIMEOUT" "30s"
  let timeout ← match Duration.parse timeoutText with
    | .ok d => pure d
    | .error p => throw (.pingTimeout timeoutText p)
  let url := env.getD "DATABASE_URL"
  if url ≠ "" then
    return ⟨url, "", 0, "", "", "", "", timeout⟩
  let host := env.valueOr "DB_HOST" "localhost"
  let user := env.getD "DB_USER"
  let password := env.getD "DB_PASSWORD"
  let name := env.getD "DB_NAME"
  let sslMode := env.valueOr "DB_SSLMODE" "disable"
  let tcpPort ← match Text.Integer.readDecimal (env.valueOr "DB_PORT" "5432") with
    | .ok p => pure p
    | .error f => throw (.badPort f)
  let url := if user ≠ "" && name ≠ "" then
      "postgresql://" ++ user ++ ":" ++ password ++ "@" ++ host ++ ":" ++ toString tcpPort ++ "/" ++
        name ++ "?sslmode=" ++ sslMode
    else ""
  return ⟨url, host, tcpPort, user, password, name, sslMode, timeout⟩

/-- The logging settings of an environment. -/
def readLogging (env : Environment) : Logging :=
  ⟨Text.lower (env.valueOr "LOG_LEVEL" "info"), Text.lower (env.valueOr "LOG_FORMAT" "json")⟩

/-- The checks that settings fail, in order. -/
def failedChecks (c : Config) : List Check :=
  (if ["debug", "info", "warn", "error"].contains c.logging.level then [] else [.logLevel]) ++
  (if c.logging.format = "json" || c.logging.format = "text" then [] else [.logFormat]) ++
  (if c.database.tcpPort ≠ 0 && (c.database.tcpPort < 1 || c.database.tcpPort > 65535) then [.portRange]
   else []) ++
  (if c.database.pingTimeout.nanos ≤ 0 then [.pingTimeout] else [])

/-- The settings of an environment, once they pass every check. -/
def read (env : Environment) : Except ConfigError Config := do
  let database ← readDatabase env
  let c : Config := ⟨database, readLogging env⟩
  match failedChecks c with
  | [] => pure c
  | cs => throw (.checks cs)

/-- Why the settings do not name a database, if they do not. -/
def databaseProblem (c : Config) : Option String :=
  if c.database.url = "" then some "DATABASE_URL is required (or DB_HOST, DB_USER, DB_NAME)"
  else none

/-- The settings as a document. -/
def toJson (c : Config) : Json :=
  .obj [("database", .obj [
      ("url", .str c.database.url), ("host", .str c.database.host),
      ("port", .int c.database.tcpPort), ("user", .str c.database.user),
      ("password", .str c.database.password), ("name", .str c.database.name),
      ("sslMode", .str c.database.sslMode),
      ("pingTimeoutNs", .int c.database.pingTimeout.nanos),
      ("pingTimeout", .str c.database.pingTimeout.text)]),
    ("logging", .obj [("level", .str c.logging.level), ("format", .str c.logging.format)]),
    ("requireDatabase", Json.ofOption Json.str (databaseProblem c))]

end Config

end Jukebox.Settings
