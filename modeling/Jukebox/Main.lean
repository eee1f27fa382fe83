import Jukebox.Console.Run
import Jukebox.Settings.EnvFile

/-! # The command-line program

Reads the settings' variables from the environment, lets an optional `config/local.env` add
the ones that are not set, runs the command line, and prints what the run leaves behind: the
output, the error text, and a failed run's report as one log line on standard error.

The program is linked with its password hashing, which lives outside the catalog; `runProgram`
is the program given that hashing.
-/

open Jukebox

/-- The variables the settings read. -/
def settingNames : List String :=
  ["DATABASE_URL", "DB_HOST", "DB_PORT", "DB_USER", "DB_PASSWORD", "DB_NAME", "DB_SSLMODE",
   "DB_PING_TIMEOUT", "LOG_LEVEL", "LOG_FORMAT"]

/-- The environment as far as the settings read it. -/
def readEnvironment : IO Settings.Environment := do
  let mut env := Settings.Environment.empty
  for name in settingNames do
    if let some v ← IO.getEnv name then
      env := env.set name v
  return env

/-- The program, hashing passwords with `scheme`, on its command line. -/
def runProgram (scheme : Catalog.PasswordScheme) (args : List String) : IO UInt32 := do
  let env ← readEnvironment
  let file ← try some <$> IO.FS.readFile "config/local.env" catch _ => pure none
  let env := match file with
    | some text => Settings.EnvFile.load text env
    | none => env
  let t := Console.launch scheme env args
  let stdout ← IO.getStdout
  let stderr ← IO.getStderr
  stderr.putStr t.stderr
  stdout.putStr t.stdout
  if let some r := t.report then
    stderr.putStrLn r.toJson.compact
  stdout.flush
  stderr.flush
  return t.exitCode.toUInt32
