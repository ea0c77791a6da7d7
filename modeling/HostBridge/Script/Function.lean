import HostBridge.Script.Evaluation
import HostBridge.Script.Native

/-!
# Functions of the script

What the functions of the script do when they are called, and the engine that ties
calls and text together. Calls nest at most as deep as the engine allows; one more is
an error that the script can catch.

## Main definitions

- `Script.runCode` — the call of any function
- `Script.engine` — calls and text with a bounded depth
-/

namespace HostBridge.Script

variable {ε : Type} [Embedding ε]

/-- The keys that a value lists. -/
def keysOf (v : ScriptValue) : ScriptM ε (List ScriptValue) := do
  let object ← toObject v
  return ((← get).scope.listed object).map fun p => .string p.1

/-- Appends a value to the list of seen values and returns its length. -/
def see (v : ScriptValue) : ScriptM ε Nat := do
  modify fun s => { s with scope := { s.scope with seen := s.scope.seen ++ [v] } }
  return (← get).scope.seen.length

/-- Adds one to a global variable and returns its value. -/
def increment (name : CodePoints) : ScriptM ε ScriptNumber := do
  let n := (← summandNumber (← readGlobal name)).add (.int 1)
  assignGlobal name (.number n)
  return n

/-- The text of a number with three places; a half goes away from zero. -/
def threePlaces : ScriptValue → ScriptM ε ScriptValue
  | .number n =>
    let x := n.toFloat
    if x.abs < 1e21 then return .text (Decimal.fixedText 3 .up (.ofFloat x))
    else return .text n.text
  | _ => typeError "not a function"

/-- Calls a value as a function. -/
def callValue (inner : Inner ε) (callee : ScriptValue) (this : ScriptValue)
    (args : List ScriptValue) : ScriptM ε ScriptValue :=
  match callee with
  | .function code => inner.apply code this args
  | _ => typeError "not a function"

/-- The global variable that counts frames. -/
def framesName : CodePoints := CodePoints.ofString "frames"

/-- The global variable that counts reactions. -/
def counterName : CodePoints := CodePoints.ofString "n"

/-- One frame of the demonstration: every thirtieth frame it writes its number, the
    time and the sine of the time. -/
def runDemoFrame (inner : Inner ε) : ScriptM ε ScriptValue := do
  let frames ← increment framesName
  if frames.toFloat.toUInt64 % 30 = 0 then
    let call (typeName member : String) (kind : CallKind) (args : List ScriptValue) :=
      runNative inner (.text typeName :: .text member :: .ofNat kind.tag :: .bool true ::
        .ofNat 0 :: args) .invoke
    let time ← call "Time" "time" .get []
    let sine ← call "Mathf" "sin" .method [.array [time]]
    let line := [.text "frame", .number frames, .text "time", ← threePlaces time,
      .text "sin", ← threePlaces sine]
    let _ ← runNative inner line (.console .info)
  return .undefined

/-- Calls a function of the script or of the language. -/
def runBody (inner : Inner ε) (this : ScriptValue) (args : List ScriptValue) :
    Code → ScriptM ε ScriptValue
  | .first => return args.headD .undefined
  | .args => return .array args
  | .count => return .ofNat args.length
  | .typeof => return .text (args.headD .undefined).typeName
  | .sum => sum inner (args.headD .undefined) (args.tail.headD .undefined)
  | .keys => return .array (← keysOf (args.headD .undefined))
  | .const value => evaluate inner value
  | .throw value => do throw (.exception (← evaluate inner value))
  | .see => return .ofNat (← see (args.headD .undefined))
  | .call name operands => do
    let (this, callee) ← readCallee name
    callValue inner callee this (← evaluateItems inner operands)
  | .native f => runNative inner args f
  | .intrinsic f => runIntrinsic inner this args f
  | .demoFrame => runDemoFrame inner
  | .logFrame =>
    runNative inner [.text "dt", args.headD .undefined] (.console .info)
  | .reportFrame operands => do
    let result ← runNative inner (← evaluateItems inner operands) .invoke
    runNative inner [result] (.console .info)
  | .countFrame => do
    let _ ← runNative inner [← readGlobal counterName] (.console .info)
    let job : Job := .mk (.increment counterName) [.mk (.increment counterName) []]
    modify fun s => { s with jobs := s.jobs ++ [job] }
    return .undefined

/-- Calls any function. Functions of the host leave no trace in the stack of errors. -/
def runCode (inner : Inner ε) (this : ScriptValue) (args : List ScriptValue) :
    Code → ScriptM ε ScriptValue
  | .native f => runNative inner args f
  | code => framed (runBody inner this args code)

/-- Calls and text, given what may be used one level further in. -/
def Inner.outward (inner : Inner ε) : Inner ε where
  apply code this args := runCode inner this args code
  written := Script.written inner

/-- Calls and text that nest at most as deep as the number says. -/
def nesting : Nat → Inner ε
  | 0 => ⟨fun _ _ _ => overflow, fun _ _ _ _ _ _ => overflow⟩
  | n + 1 => (nesting n).outward

/-- Calls and text of the engine. -/
def engine : Inner ε := nesting maxNesting

end HostBridge.Script
