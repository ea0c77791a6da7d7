import HostBridge.Script.Session

/-!
# Programs

The scripts that the command line knows. A program sets up global variables when it is
loaded; most leave a function `update`, which runs on every frame.

## Main definitions

- `Program` — the programs
- `Program.load` — what loading a program does
-/

namespace HostBridge

/-- A script that the command line knows. -/
inductive Program where
  /-- Counts frames and writes a line on every thirtieth. -/
  | demo
  /-- Writes the seconds of every frame. -/
  | logFrames
  /-- Writes a line when it is loaded and has no function for frames. -/
  | greeting
  /-- Writes on every frame what a call by name returns. -/
  | report (args : List Expr)
  /-- Writes a counter on every frame and queues two reactions that count. -/
  | countReactions

namespace Program

variable {ε : Type} [Embedding ε]

/-- Sets the function that runs on every frame. -/
def setUpdate (code : Code) : ScriptM ε Unit :=
  Script.assignGlobal (CodePoints.ofString "update") (.function code)

/-- Sets a global variable to zero. -/
def setZero (name : CodePoints) : ScriptM ε Unit :=
  Script.assignGlobal name (.ofNat 0)

/-- The line that the greeting writes. -/
def greetingLine : List ScriptValue :=
  [.text "loaded", .array [.ofNat 1, .ofNat 2],
    .object [(CodePoints.ofString "a", some .null)]]

/-- Loads a program. -/
def load : Program → ScriptM ε Unit
  | demo => do
    setZero Script.framesName
    setUpdate .demoFrame
  | logFrames => setUpdate .logFrame
  | greeting => do
    let _ ← Script.runNative Script.engine greetingLine (.console .warn)
  | report args => setUpdate (.reportFrame args)
  | countReactions => do
    setZero Script.counterName
    setUpdate .countFrame

/-- The program with a name, as script files hold it. -/
def ofName? : String → Option Program
  | "demo" => some demo
  | "log-frames" => some logFrames
  | "greeting" => some greeting
  | "count-reactions" => some countReactions
  | _ => none

end Program

end HostBridge
