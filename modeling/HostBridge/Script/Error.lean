/-!
# Errors of a script context

A fault is a refusal of the script engine that is no exception of the script; an
error is what the host is told.

## Main definitions

- `EngineFault` and its message
- `ScriptError` and its message
-/

namespace HostBridge

/-- Why the engine refused something. -/
inductive EngineFault where
  /-- A string has an unpaired surrogate, which the host cannot hold; it stands at a byte. -/
  | notText (index : Nat)
  /-- A value of one type stands where another is needed. -/
  | conversion (found needed : String)
  /-- A native function was called with too few arguments. -/
  | missingArguments (given needed : Nat)
deriving DecidableEq, Repr

/-- The text of a fault. -/
def EngineFault.message : EngineFault → String
  | notText index =>
    "Conversion from string failed: invalid utf-8 sequence of 1 bytes from index " ++
      toString index
  | conversion found needed =>
    "Error converting from js '" ++ found ++ "' into type '" ++ needed ++ "'"
  | missingArguments given needed =>
    "Error calling function with " ++ toString given ++ " argument(s) while " ++
      toString needed ++ " where expected"

/-- What the host is told about a script that failed. -/
inductive ScriptError where
  | engine (fault : EngineFault)
  | exception (text : String)
  | job (text : String)
  | callbacksFull (capacity : Nat)
  | unknownCallback (id : Int)
  | notAFunction (name : String)
  | missingFile
deriving DecidableEq, Repr

/-- The text of an error. -/
def ScriptError.message : ScriptError → String
  | engine fault => "script engine error: " ++ fault.message
  | exception text => "uncaught exception: " ++ text
  | job text => "pending job failed: " ++ text
  | callbacksFull capacity =>
    "callback table is full (" ++ toString capacity ++ " slots)"
  | unknownCallback id => "no callback registered with id " ++ toString id
  | notAFunction name => "'" ++ name ++ "' is not a function"
  | missingFile => "failed to read script: No such file or directory (os error 2)"

end HostBridge
