/-!
# Functions of the script language

The objects and functions that the language itself brings along: those in its global
scope, those that its constructors hold and those that all objects of a kind share.

## Main definitions

- `Constructor` — the constructors
- `Fixture` — the objects that are no functions
- `Intrinsic` — the functions, with `name`, `arity` and `isConstructor`
- `Intrinsic.globals`, `Constructor.members`, `Fixture.members` — where they are found
-/

namespace HostBridge

/-- The kinds of errors. -/
inductive ErrorKind where
  | error
  | eval
  | range
  | reference
  | grammar
  | type
  | uri
  | internal
  | aggregate
deriving DecidableEq, Repr

namespace ErrorKind

/-- The name of a kind of errors, which is that of its constructor. -/
def name : ErrorKind → String
  | error => "Error"
  | eval => "EvalError"
  | range => "RangeError"
  | reference => "ReferenceError"
  | grammar => "SyntaxError"
  | type => "TypeError"
  | uri => "URIError"
  | internal => "InternalError"
  | aggregate => "AggregateError"

/-- All kinds of errors. -/
def all : List ErrorKind :=
  [error, eval, range, reference, grammar, type, uri, internal, aggregate]

end ErrorKind

/-- The kinds of values without parts that can stand in an object. -/
inductive PrimitiveKind where
  | string
  | number
  | boolean
  | symbol
  | bigint
deriving DecidableEq, Repr

namespace PrimitiveKind

/-- The name of the constructor of a kind. -/
def name : PrimitiveKind → String
  | string => "String"
  | number => "Number"
  | boolean => "Boolean"
  | symbol => "Symbol"
  | bigint => "BigInt"

/-- All kinds of values without parts that can stand in an object. -/
def all : List PrimitiveKind :=
  [string, number, boolean, symbol, bigint]

/-- The complaint about a value of another kind. -/
def refusal : PrimitiveKind → String
  | string => "not a string"
  | number => "not a number"
  | boolean => "not a boolean"
  | symbol => "not a symbol"
  | bigint => "not a BigInt"

end PrimitiveKind

/-- A constructor of the language. -/
inductive Constructor where
  | error (kind : ErrorKind)
  | object
  | array
  | function
  | primitive (kind : PrimitiveKind)
  | date
  | pattern
  /-- One that makes nothing when it is called as a function. -/
  | strict (name : String)
deriving DecidableEq, Repr

namespace Constructor

/-- The name of a constructor. -/
def name : Constructor → String
  | error kind => kind.name
  | object => "Object"
  | array => "Array"
  | function => "Function"
  | primitive kind => kind.name
  | date => "Date"
  | pattern => "RegExp"
  | strict name => name

/-- The constructors of arrays of numbers of one size, with the size. -/
def numberArrays : List (String × Nat) :=
  [("Uint8ClampedArray", 1), ("Int8Array", 1), ("Uint8Array", 1), ("Int16Array", 2),
    ("Uint16Array", 2), ("Int32Array", 4), ("Uint32Array", 4), ("BigInt64Array", 8),
    ("BigUint64Array", 8), ("Float32Array", 4), ("Float64Array", 8)]

/-- The constructors that make nothing when they are called as functions. -/
def strictNames : List String :=
  numberArrays.map (·.1) ++ ["DataView", "Proxy", "Map", "Set", "WeakMap", "WeakSet",
    "ArrayBuffer", "SharedArrayBuffer", "Promise"]

/-- All constructors. -/
def all : List Constructor :=
  ErrorKind.all.map error ++ [object, array, function] ++ PrimitiveKind.all.map primitive ++
    [date, pattern] ++ strictNames.map strict

/-- How many arguments a constructor names. -/
def arity : Constructor → Nat
  | error .aggregate => 2
  | primitive .symbol => 0
  | date => 7
  | pattern => 2
  | strict name =>
    if (numberArrays.lookup name).isSome then 3
    else if name = "Proxy" then 2
    else if ["Map", "Set", "WeakMap", "WeakSet"].contains name then 0
    else 1
  | _ => 1

end Constructor

/-- An object that the language brings along and that is no function. -/
inductive Fixture where
  /-- The global scope as an object. -/
  | scope
  /-- The functions for object notation. -/
  | objectNotation
  | math
  | reflection
  | atomics
  /-- The object from which what a constructor makes inherits. -/
  | shared (maker : Constructor)
deriving DecidableEq, Repr

/-- An object that holds functions: a constructor or an object that is no function. -/
inductive Holder where
  | maker (c : Constructor)
  | fixture (f : Fixture)
deriving DecidableEq, Repr

/-- A function of the language. -/
inductive Intrinsic where
  | constructor (c : Constructor)
  | parseInteger
  | parseFloat
  | isNaN
  | isFinite
  /-- Gives back what is no text. -/
  | evaluate
  /-- Encodes text for an address; the marks of addresses stay unless asked otherwise. -/
  | encode (marks : Bool)
  | decode (marks : Bool)
  | escape
  | unescape
  /-- The text of an object by its class. -/
  | classText
  | localText
  | itself
  | hasOwn
  | isParent
  | isListed
  /-- Looks up or defines a getter or a setter. -/
  | accessor (name : String) (arity : Nat)
  | arrayText
  | join
  | functionText
  | errorText
  /-- The text of the value in an object. -/
  | boxText (kind : PrimitiveKind)
  /-- The value in an object. -/
  | unbox (kind : PrimitiveKind)
  /-- Writes object notation. -/
  | stringify
  /-- Reads object notation. -/
  | parse
  /-- Does nothing; all functions inherit from it. -/
  | idle
  /-- A function that an object of the language holds under a name. -/
  | held (holder : Holder) (name : String) (arity : Nat)
deriving DecidableEq, Repr

namespace Intrinsic

/-- The name of a function. -/
def name : Intrinsic → String
  | constructor c => c.name
  | held _ name _ | accessor name _ => name
  | parseInteger => "parseInt"
  | parseFloat => "parseFloat"
  | isNaN => "isNaN"
  | isFinite => "isFinite"
  | evaluate => "eval"
  | encode true => "encodeURIComponent"
  | encode false => "encodeURI"
  | decode true => "decodeURIComponent"
  | decode false => "decodeURI"
  | escape => "escape"
  | unescape => "unescape"
  | classText | arrayText | functionText | errorText | boxText _ => "toString"
  | localText => "toLocaleString"
  | itself | unbox _ => "valueOf"
  | hasOwn => "hasOwnProperty"
  | isParent => "isPrototypeOf"
  | isListed => "propertyIsEnumerable"
  | join => "join"
  | stringify => "stringify"
  | parse => "parse"
  | idle => ""

/-- How many arguments a function names. -/
def arity : Intrinsic → Nat
  | constructor c => c.arity
  | held _ _ arity | accessor _ arity => arity
  | stringify => 3
  | parseInteger | parse => 2
  | classText | localText | itself | arrayText | functionText | errorText | unbox _ | idle => 0
  | boxText kind => if kind = .number then 1 else 0
  | _ => 1

/-- Whether a function is a constructor. -/
def isConstructor : Intrinsic → Bool
  | constructor _ => true
  | _ => false

/-- The functions in the global scope. -/
def globals : List Intrinsic :=
  Constructor.all.map constructor ++
    [parseInteger, parseFloat, isNaN, isFinite, evaluate, encode true, encode false, decode true,
      decode false, escape, unescape]

/-- The function with a name among some functions. -/
def find? (functions : List Intrinsic) (name : String) : Option Intrinsic :=
  functions.find? (·.name = name)

end Intrinsic

namespace Holder

/-- Functions that an object holds, each by its name and the number of its arguments. -/
def holds (h : Holder) (functions : List (String × Nat)) : List Intrinsic :=
  functions.map fun (name, arity) => .held h name arity

end Holder

namespace Constructor

/-- The functions that a constructor holds by the names that it gives them alone. -/
def ownMembers : Constructor → List (String × Nat)
  | object =>
    [("create", 2), ("getPrototypeOf", 1), ("setPrototypeOf", 2), ("defineProperty", 3),
      ("defineProperties", 2), ("getOwnPropertyNames", 1), ("getOwnPropertySymbols", 1),
      ("groupBy", 2), ("keys", 1), ("values", 1), ("entries", 1), ("isExtensible", 1),
      ("preventExtensions", 1), ("getOwnPropertyDescriptor", 2), ("getOwnPropertyDescriptors", 1),
      ("is", 2), ("assign", 2), ("seal", 1), ("freeze", 1), ("isSealed", 1), ("isFrozen", 1),
      ("__getClass", 1), ("fromEntries", 1), ("hasOwn", 2)]
  | array => [("isArray", 1), ("from", 1), ("of", 0)]
  | primitive .string => [("fromCharCode", 1), ("fromCodePoint", 1), ("raw", 1)]
  | primitive .number => [("isNaN", 1), ("isFinite", 1), ("isInteger", 1), ("isSafeInteger", 1)]
  | primitive .symbol => [("for", 1), ("keyFor", 1)]
  | primitive .bigint => [("asUintN", 2), ("asIntN", 2)]
  | date => [("now", 0), ("parse", 1), ("UTC", 7)]
  | strict "Promise" =>
    [("resolve", 1), ("reject", 1), ("all", 1), ("allSettled", 1), ("any", 1), ("race", 1),
      ("withResolvers", 0)]
  | strict "Map" => [("groupBy", 2)]
  | strict "Proxy" => [("revocable", 2)]
  | strict "ArrayBuffer" => [("isView", 1)]
  | strict name => if (numberArrays.lookup name).isSome then [("from", 1), ("of", 0)] else []
  | _ => []

/-- The functions that a constructor holds. -/
def members (c : Constructor) : List Intrinsic :=
  (if c = primitive .number then [.parseInteger, .parseFloat] else []) ++
    Holder.holds (.maker c) c.ownMembers

end Constructor

namespace Fixture

/-- The functions that objects of a kind share by the names that they give them alone. -/
def sharedMembers : Constructor → List (String × Nat)
  | .function => [("call", 1), ("apply", 2), ("bind", 1)]
  | .array =>
    [("at", 1), ("with", 2), ("concat", 1), ("every", 1), ("some", 1), ("forEach", 1), ("map", 1),
      ("filter", 1), ("reduce", 1), ("reduceRight", 1), ("fill", 1), ("find", 1), ("findIndex", 1),
      ("findLast", 1), ("findLastIndex", 1), ("indexOf", 1), ("lastIndexOf", 1), ("includes", 1),
      ("toLocaleString", 0), ("pop", 0), ("push", 1), ("shift", 0), ("unshift", 1),
      ("reverse", 0), ("toReversed", 0), ("sort", 1), ("toSorted", 1), ("slice", 2),
      ("splice", 2), ("toSpliced", 2), ("copyWithin", 2), ("flatMap", 1), ("flat", 0),
      ("values", 0), ("keys", 0), ("entries", 0)]
  | .primitive .string =>
    [("at", 1), ("charCodeAt", 1), ("charAt", 1), ("concat", 1), ("codePointAt", 1),
      ("isWellFormed", 0), ("toWellFormed", 0), ("indexOf", 1), ("lastIndexOf", 1),
      ("includes", 1), ("endsWith", 1), ("startsWith", 1), ("match", 1), ("matchAll", 1),
      ("search", 1), ("split", 2), ("substring", 2), ("substr", 2), ("slice", 2), ("repeat", 1),
      ("replace", 2), ("replaceAll", 2), ("padEnd", 1), ("padStart", 1), ("trim", 0),
      ("trimEnd", 0), ("trimRight", 0), ("trimStart", 0), ("trimLeft", 0), ("__quote", 1),
      ("localeCompare", 1), ("toLowerCase", 0), ("toUpperCase", 0), ("toLocaleLowerCase", 0),
      ("toLocaleUpperCase", 0), ("anchor", 1), ("big", 0), ("blink", 0), ("bold", 0),
      ("fixed", 0), ("fontcolor", 1), ("fontsize", 1), ("italics", 0), ("link", 1), ("small", 0),
      ("strike", 0), ("sub", 0), ("sup", 0), ("normalize", 0)]
  | .primitive .number =>
    [("toExponential", 1), ("toFixed", 1), ("toPrecision", 1), ("toLocaleString", 0)]
  | .date =>
    [("valueOf", 0), ("toString", 0), ("toUTCString", 0), ("toGMTString", 0), ("toISOString", 0),
      ("toDateString", 0), ("toTimeString", 0), ("toLocaleString", 0), ("toLocaleDateString", 0),
      ("toLocaleTimeString", 0), ("getTimezoneOffset", 0), ("getTime", 0), ("getYear", 0),
      ("getFullYear", 0), ("getUTCFullYear", 0), ("getMonth", 0), ("getUTCMonth", 0),
      ("getDate", 0), ("getUTCDate", 0), ("getHours", 0), ("getUTCHours", 0), ("getMinutes", 0),
      ("getUTCMinutes", 0), ("getSeconds", 0), ("getUTCSeconds", 0), ("getMilliseconds", 0),
      ("getUTCMilliseconds", 0), ("getDay", 0), ("getUTCDay", 0), ("setTime", 1),
      ("setMilliseconds", 1), ("setUTCMilliseconds", 1), ("setSeconds", 2), ("setUTCSeconds", 2),
      ("setMinutes", 3), ("setUTCMinutes", 3), ("setHours", 4), ("setUTCHours", 4),
      ("setDate", 1), ("setUTCDate", 1), ("setMonth", 2), ("setUTCMonth", 2), ("setYear", 1),
      ("setFullYear", 3), ("setUTCFullYear", 3), ("toJSON", 1)]
  | .pattern => [("exec", 1), ("compile", 2), ("test", 1), ("toString", 0)]
  | .strict "Map" =>
    [("set", 2), ("get", 1), ("has", 1), ("delete", 1), ("clear", 0), ("forEach", 1),
      ("values", 0), ("keys", 0), ("entries", 0)]
  | .strict "Set" =>
    [("add", 1), ("has", 1), ("delete", 1), ("clear", 0), ("forEach", 1), ("values", 0),
      ("keys", 0), ("entries", 0)]
  | .strict "WeakMap" => [("set", 2), ("get", 1), ("has", 1), ("delete", 1)]
  | .strict "WeakSet" => [("add", 1), ("has", 1), ("delete", 1)]
  | .strict "Promise" => [("then", 2), ("catch", 1), ("finally", 1)]
  | .strict "ArrayBuffer" | .strict "SharedArrayBuffer" => [("slice", 2)]
  | .strict "DataView" =>
    ["Int8", "Uint8", "Int16", "Uint16", "Int32", "Uint32", "BigInt64", "BigUint64", "Float32",
      "Float64"].flatMap fun kind => [("get" ++ kind, 1), ("set" ++ kind, 2)]
  | .strict name =>
    if (Constructor.numberArrays.lookup name).isNone then []
    else
      [("at", 1), ("with", 2), ("set", 1), ("values", 0), ("keys", 0), ("entries", 0),
        ("copyWithin", 2), ("every", 1), ("some", 1), ("forEach", 1), ("map", 1), ("filter", 1),
        ("reduce", 1), ("reduceRight", 1), ("fill", 1), ("find", 1), ("findIndex", 1),
        ("findLast", 1), ("findLastIndex", 1), ("reverse", 0), ("toReversed", 0), ("slice", 2),
        ("subarray", 2), ("sort", 1), ("toSorted", 1), ("join", 1), ("toLocaleString", 0),
        ("indexOf", 1), ("lastIndexOf", 1), ("includes", 1)]
  | _ => []

/-- The functions that what a constructor makes shares. -/
def ofMaker (maker : Constructor) : List Intrinsic :=
  let special : List Intrinsic := match maker with
    | .object =>
      [.classText, .localText, .itself, .hasOwn, .isParent, .isListed,
        .accessor "__defineGetter__" 2, .accessor "__defineSetter__" 2,
        .accessor "__lookupGetter__" 1, .accessor "__lookupSetter__" 1]
    | .array => [.join, .arrayText]
    | .function => [.functionText]
    | .error .error => [.errorText]
    | .primitive kind => [.boxText kind, .unbox kind]
    | .strict name =>
      if (Constructor.numberArrays.lookup name).isSome then [.arrayText] else []
    | _ => []
  special ++ Holder.holds (.fixture (.shared maker)) (sharedMembers maker)

/-- The functions of numbers that take one number. -/
def unaryNames : List String :=
  ["abs", "floor", "ceil", "round", "sqrt", "acos", "asin", "atan", "cos", "exp", "log", "sin",
    "tan", "trunc", "sign", "cosh", "sinh", "tanh", "acosh", "asinh", "atanh", "expm1", "log1p",
    "log2", "log10", "cbrt", "fround", "clz32"]

/-- The functions that an object of the language holds. -/
def members : Fixture → List Intrinsic
  | scope => []
  | objectNotation => [.parse, .stringify]
  | math =>
    Holder.holds (.fixture math) <|
      [("min", 2), ("max", 2), ("atan2", 2), ("pow", 2), ("hypot", 2), ("random", 0),
        ("imul", 2)] ++ unaryNames.map fun name => (name, 1)
  | reflection =>
    Holder.holds (.fixture reflection)
      [("apply", 3), ("construct", 2), ("defineProperty", 3), ("deleteProperty", 2), ("get", 2),
        ("getOwnPropertyDescriptor", 2), ("getPrototypeOf", 1), ("has", 2), ("isExtensible", 1),
        ("ownKeys", 1), ("preventExtensions", 1), ("set", 3), ("setPrototypeOf", 2)]
  | atomics =>
    Holder.holds (.fixture atomics)
      [("add", 3), ("and", 3), ("or", 3), ("sub", 3), ("xor", 3), ("exchange", 3),
        ("compareExchange", 4), ("load", 2), ("store", 3), ("isLockFree", 1), ("wait", 4),
        ("notify", 3)]
  | shared maker => ofMaker maker

end Fixture

end HostBridge
