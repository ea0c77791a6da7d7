import HostBridge.CommandLine

/-!
# Program

Runs a script against the bundled bindings: `[--settings <path>] [<script>]`. A script
file holds the name of a program; without one the demonstration runs. Without the
option the variable `TETHER_SETTINGS` may name a settings file.
-/

namespace HostBridge.CommandLine

/-- The arguments of the command line. -/
structure Arguments where
  settings : Option String := none
  script : Option String := none

/-- Reads the arguments of the command line. -/
def readArguments : List String → Arguments → Option Arguments
  | [], a => some a
  | "--settings" :: path :: rest, a => readArguments rest { a with settings := some path }
  | path :: rest, a =>
    if path.startsWith "-" || a.script.isSome then none
    else readArguments rest { a with script := some path }

/-- The text of a file, if it can be read. -/
def readFile? (path : String) : IO (Option String) := do
  try
    return some (← IO.FS.readFile path)
  catch _ =>
    return none

/-- The script in a file. -/
def readScript (path : String) : IO ScriptFile := do
  match (← readFile? path).bind fun text => Program.ofName? text.trimAscii.toString with
  | some p => return .program p
  | none => return .missing

/-- Runs the command line; the answer is the exit code. -/
def runProgram (args : List String) : IO UInt32 := do
  let some a := readArguments args {}
    | do
      IO.eprintln "usage: tether [--settings <path>] [<script>]"
      return 2
  let settingsPath := a.settings <|> (← IO.getEnv "TETHER_SETTINGS")
  let settings ← settingsPath.mapM fun path => do
    match ← readFile? path with
    | some text => return (path, SettingsFile.text text)
    | none => return (path, SettingsFile.missing)
  let script ← a.script.mapM fun path => do return (path, ← readScript path)
  let out := run { settings, script }
  for e in shown out.events do
    IO.println (e.level.name ++ " " ++ e.target ++ ": " ++ e.message)
  match out.value with
  | some f =>
    IO.eprintln f.message
    return 1
  | none => return 0

end HostBridge.CommandLine

def main (args : List String) : IO UInt32 :=
  HostBridge.CommandLine.runProgram args
