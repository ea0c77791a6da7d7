import HostBridge.Log
import HostBridge.Script.Intrinsic
import HostBridge.Script.Number
import HostBridge.Text.CodePoint

/-!
# Script values

The values of the script language, and the descriptions from which they are made. A
description makes a new value each time it is evaluated, so values have no identity of
their own; the one list that all functions share is a value by reference.

## Main definitions

- `Native` — the functions that the host puts into the global scope
- `Expr`, `Code` — descriptions of values and of functions
- `ScriptValue` — values, with `ScriptValue.depth`
-/

namespace HostBridge

/-- A function that the host puts into the global scope. -/
inductive Native where
  /-- Calls a member by name. -/
  | invoke
  /-- Gives a number to a binding. -/
  | resolveBinding
  /-- Calls a binding by number, with as many arguments as there are or with a fixed number. -/
  | invokeById (arity : Option Nat)
  | releaseHandle
  | registerCallback
  | unregisterCallback
  /-- Writes to the console. -/
  | console (level : Level)
deriving DecidableEq, Repr

mutual

/-- The description of a value. -/
inductive Expr where
  | undefined
  | null
  | bool (b : Bool)
  | number (x : Float)
  | string (s : CodePoints)
  | symbol (description : CodePoints)
  | bigint (n : Int)
  | array (items : List Expr)
  /-- An object with properties of its own; one without a value is a getter that throws. -/
  | object (own : List (CodePoints × Option Expr))
  /-- An object with another one as its prototype, or with none. -/
  | derived (parent : Expr) (own : List (CodePoints × Option Expr))
  /-- An error, made by the constructor of that name. -/
  | error (name message stack : CodePoints)
  /-- An object whose property `self` is the object itself. -/
  | cyclic
  /-- The list to which `Code.see` appends. -/
  | seen
  /-- The value of a global variable; what stands behind a point is a property of it. -/
  | global (name : CodePoints)
  | function (code : Code)

/-- The description of a function. -/
inductive Code where
  /-- Returns the first argument. -/
  | first
  /-- Returns an array of the arguments. -/
  | args
  /-- Returns the number of arguments. -/
  | count
  /-- Returns the name of the type of the first argument. -/
  | typeof
  /-- Returns the sum of two arguments. -/
  | sum
  /-- Returns the keys of the first argument. -/
  | keys
  /-- Returns a value. -/
  | const (value : Expr)
  /-- Throws a value. -/
  | throw (value : Expr)
  /-- Appends the first argument to the list of seen values and returns its length. -/
  | see
  /-- Calls a global function. -/
  | call (name : CodePoints) (args : List Expr)
  | native (f : Native)
  | intrinsic (f : Intrinsic)
  /-- Counts frames in a global variable and writes a line on every thirtieth. -/
  | demoFrame
  /-- Writes the seconds of the frame. -/
  | logFrame
  /-- Writes what a call by name returns. -/
  | reportFrame (args : List Expr)
  /-- Writes a global counter and queues two reactions, one behind the other, that count. -/
  | countFrame

end

namespace Code

/-- The name of a function; functions of the script and of the host have none. -/
def name : Code → String
  | .intrinsic f => f.name
  | _ => ""

/-- How many arguments a function names. -/
def arity : Code → Nat
  | .intrinsic f => f.arity
  | .first | .typeof | .keys | .see | .logFrame => 1
  | .sum => 2
  | _ => 0

/-- Whether objects can be made with a function. -/
def isConstructor : Code → Bool
  | .native _ => false
  | .intrinsic f => f.isConstructor
  | _ => true

end Code

/-- A value of the script language. -/
inductive ScriptValue where
  | undefined
  | null
  | bool (b : Bool)
  | number (n : ScriptNumber)
  | string (s : CodePoints)
  | symbol (description : CodePoints)
  | bigint (n : Int)
  | array (items : List ScriptValue)
  | object (own : List (CodePoints × Option ScriptValue))
  | derived (parent : ScriptValue) (own : List (CodePoints × Option ScriptValue))
  /-- An error; the stack is missing until the error leaves a function. -/
  | error (kind : ErrorKind) (message : CodePoints) (stack : Option CodePoints)
  | cyclic
  | seen
  | function (code : Code)
  /-- An object around a value that is none. -/
  | box (v : ScriptValue) (own : List (CodePoints × Option ScriptValue))
  | fixture (f : Fixture)

instance : Inhabited ScriptValue := ⟨.undefined⟩

namespace ScriptValue

/-- A value of plain text. -/
def text (s : String) : ScriptValue := .string (CodePoints.ofString s)

/-- A number with the given value. -/
def ofFloat (x : Float) : ScriptValue := .number (.ofFloat x)

/-- A whole number. -/
def ofNat (n : Nat) : ScriptValue := .number (.ofNat n)

/-- Whether a value is an object, be it a function or not. -/
def isObject : ScriptValue → Bool
  | .array _ | .object _ | .derived .. | .error .. | .cyclic | .seen | .function _ | .box ..
  | .fixture _ => true
  | _ => false

/-- Whether a value is an object and no function. -/
def isPlainObject : ScriptValue → Bool
  | .function _ => false
  | v => v.isObject

/-- The number in a value. -/
def number? : ScriptValue → Option ScriptNumber
  | .number n => some n
  | _ => none

/-- The name of the type of a value, as the language tells it. -/
def typeName : ScriptValue → String
  | .undefined => "undefined"
  | .bool _ => "boolean"
  | .number _ => "number"
  | .string _ => "string"
  | .symbol _ => "symbol"
  | .bigint _ => "bigint"
  | .function _ => "function"
  | _ => "object"

/-- Whether a value is an array. -/
def isArray : ScriptValue → Bool
  | .array _ | .seen => true
  | .fixture f => f = .shared .array
  | _ => false

mutual

/-- How deep arrays and objects nest in a value. -/
def depth : ScriptValue → Nat
  | .array items => itemsDepth items + 1
  | .object own | .derived _ own => ownDepth own + 1
  | _ => 0

/-- Greatest depth of the items of an array. -/
def itemsDepth : List ScriptValue → Nat
  | [] => 0
  | v :: rest => max v.depth (itemsDepth rest)

/-- Greatest depth of the properties of an object. -/
def ownDepth : List (CodePoints × Option ScriptValue) → Nat
  | [] => 0
  | (_, none) :: rest => ownDepth rest
  | (_, some v) :: rest => max v.depth (ownDepth rest)

end

/-- The name of the type of a value, as the engine tells it. -/
def engineType : ScriptValue → String
  | .undefined => "undefined"
  | .null => "null"
  | .bool _ => "bool"
  | .number (.int _) => "int"
  | .number (.float _) => "float"
  | .string _ => "string"
  | .symbol _ => "symbol"
  | .bigint _ => "big_int"
  | .error .. => "exception"
  | .function code => if code.isConstructor then "constructor" else "function"
  | v => if v.isArray then "array" else "object"

end ScriptValue

end HostBridge
