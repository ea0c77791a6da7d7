import HostBridge.Script.Coercion

/-!
# Functions on objects

The functions of the language that look into objects and make new ones of them. Values
have no identity of their own, so a function that changes its argument shows what it did
in the value that it returns. The list of seen values is the exception: there is one of
it, and to set an item of it is seen wherever it is used.

## Main definitions

- `ScriptValue.withOwn`, `Script.putOwn` — a value with one more property
- `ScriptValue.same` — whether two values are the same
- `Script.runObject`, `Script.runReflection` — functions on objects
- `Script.runArrayMaker` — functions that make arrays
- `Script.runFunctionMethod` — functions on functions
-/

namespace HostBridge

namespace ScriptValue

/-- An array with an item at a position; arrays have no holes. -/
def withItem (items : List ScriptValue) (i : Nat) (v : ScriptValue) : List ScriptValue :=
  if i < items.length then items.set i v else if i = items.length then items ++ [v] else items

/-- A value with a property of its own set, if it can have one. -/
def withOwn (v : ScriptValue) (key : CodePoints) (x : ScriptValue) : ScriptValue :=
  match v with
  | .object own => .object (Properties.put own key (some x))
  | .derived parent own => .derived parent (Properties.put own key (some x))
  | .box v own => .box v (Properties.put own key (some x))
  | .array items =>
    match Properties.index? key with
    | some i => .array (withItem items i x)
    | none => v
  | .error kind message stack =>
    match x with
    | .string s =>
      if key = CodePoints.ofString "stack" then .error kind message (some s)
      else if key = CodePoints.ofString "message" then .error kind s stack
      else v
    | _ => v
  | v => v

/-- Whether two values are the same. Objects that are not held by reference are new each
    time that they are made. -/
def same : ScriptValue → ScriptValue → Bool
  | .undefined, .undefined | .null, .null | .seen, .seen => true
  | .bool a, .bool b => a == b
  | .number m, .number n =>
    let x := m.toFloat
    let y := n.toFloat
    if x.isNaN then y.isNaN else x.toBits == y.toBits
  | .string s, .string t => s == t
  | .bigint m, .bigint n => m == n
  | .fixture f, .fixture g => f = g
  | .function (.intrinsic f), .function (.intrinsic g) => f = g
  | .function (.native f), .function (.native g) => f = g
  | _, _ => false

end ScriptValue

namespace Scope

/-- The keys of all properties of a value's own. -/
def ownKeys (s : Scope) (v : ScriptValue) : List CodePoints :=
  let hidden : List String := match v with
    | .array _ | .seen | .box (.string _) _ | .string _ => ["length"]
    | .error .. => ["message", "stack"]
    | .function (.intrinsic (.constructor c)) =>
      ["length", "name", "prototype"] ++ c.members.map Intrinsic.name ++
        (Lookup.constantsOf c).map (·.1)
    | .function (.intrinsic .idle) =>
      ["length", "name", "constructor", "fileName", "lineNumber", "caller", "arguments"] ++
        (Fixture.ofMaker .function).map Intrinsic.name
    | .function code =>
      if code.isConstructor then ["length", "name", "prototype"] else ["length", "name"]
    | .fixture .math =>
      (Fixture.members .math).map Intrinsic.name ++ Lookup.mathConstants.map (·.1)
    | .fixture (.shared c) => "constructor" :: (Fixture.ofMaker c).map Intrinsic.name
    | .fixture f => f.members.map Intrinsic.name
    | _ => []
  (s.listed v).map (·.1) ++ hidden.map CodePoints.ofString

end Scope

namespace Script

variable {ε : Type} [Embedding ε]

/-- Sets a property of a value's own and returns the value with it. The list of seen values
    keeps what is set under the number of an item, or of the one behind the last. -/
def putOwn (v : ScriptValue) (key : CodePoints) (x : ScriptValue) : ScriptM ε ScriptValue := do
  match v, Properties.index? key with
  | .seen, some i =>
    modify fun s =>
      { s with scope := { s.scope with seen := ScriptValue.withItem s.scope.seen i x } }
    return .seen
  | v, _ => return v.withOwn key x

/-- The properties that a value lists, with their values. -/
def listedValues (v : ScriptValue) : ScriptM ε (List (CodePoints × ScriptValue)) := do
  let mut values := []
  for (key, x) in (← get).scope.listed v do
    values := (key, ← found (x.elim .throws .value)) :: values
  return values.reverse

/-- An object with some properties. -/
def ofValues (pairs : List (CodePoints × ScriptValue)) : ScriptValue :=
  pairs.foldl (fun v (key, x) => v.withOwn key x) (.object [])

/-- An object with some properties under plain names. -/
def ofNames (pairs : List (String × ScriptValue)) : ScriptValue :=
  .object (pairs.map fun (key, v) => (CodePoints.ofString key, some v))

/-- The description of a property of an object's own. -/
def describeOwn (v : ScriptValue) (key : CodePoints) : ScriptM ε ScriptValue := do
  let scope := (← get).scope
  let isListed := (scope.listed v).any (·.1 = key)
  match scope.ownOf key v with
  | .value x =>
    let isLength := v.isArray && key = CodePoints.ofString "length"
    return ofNames [("value", x), ("writable", .bool true), ("enumerable", .bool isListed),
      ("configurable", .bool !isLength)]
  | .constant x =>
    let isFunction := match v with
      | .function _ => key != CodePoints.ofString "prototype"
      | _ => false
    return ofNames [("value", x), ("writable", .bool false), ("enumerable", .bool isListed),
      ("configurable", .bool isFunction)]
  | .throws =>
    let name := CodePoints.ofString "Error"
    let getter := Code.throw (.error name (CodePoints.ofString "thrower") [])
    return ofNames [("get", .function getter), ("set", .undefined), ("enumerable", .bool true),
      ("configurable", .bool true)]
  | .computed _ =>
    return ofNames [("get", .function (.const .undefined)), ("set", .undefined),
      ("enumerable", .bool false), ("configurable", .bool true)]
  | .missing | .forbidden | .parent => return .undefined

/-- An object with the properties that another one describes. -/
def withDescribed (v : ScriptValue) (descriptions : ScriptValue) : ScriptM ε ScriptValue := do
  let mut v := v
  for (key, description) in ← listedValues descriptions do
    requireObject description
    if truth (← readProperty description (CodePoints.ofString "enumerable")) then
      v ← putOwn v key (← readProperty description (CodePoints.ofString "value"))
  return v

/-- Values in groups by the keys that a function gives them. -/
def grouped (inner : Inner ε) (code : Code) (items : List ScriptValue) :
    ScriptM ε Properties := do
  let mut groups : Properties := []
  for (item, i) in items.zipIdx do
    let named ← inner.apply code .undefined [item, .ofNat i]
    if let some key ← propertyKey? inner named then
      let group := match groups.find? (·.1 = key) with
        | some (_, some (.array members)) => members
        | _ => []
      groups := Properties.put groups key (some (.array (group ++ [item])))
  return groups

/-- A value under the prototype that it is given, if it can have one. -/
def underParent (v parent : ScriptValue) : ScriptValue :=
  match v with
  | .object own | .derived _ own => .derived parent own
  | v => v

/-- Refuses what cannot be a prototype. -/
def requireParent (v : ScriptValue) (message : String) : ScriptM ε Unit :=
  match v with
  | .null => return ()
  | v => if v.isObject then return () else typeError message

/-- Whether an object has a property of its own that a value names. -/
def hasOwnNamed (inner : Inner ε) (v named : ScriptValue) : ScriptM ε Bool := do
  match ← propertyKey? inner named with
  | some key => return ((← get).scope.ownOf key v).isFound
  | none => return false

/-- Calls a function that looks into an object or makes one. -/
def runObject (inner : Inner ε) (name : String) (args : List ScriptValue) :
    ScriptM ε ScriptValue := do
  let first := args.headD .undefined
  let second := args.tail.headD .undefined
  match name with
  | "create" =>
    requireParent first "not a prototype"
    let made := if first matches .null then .derived .null [] else .derived first []
    match second with
    | .undefined => return made
    | descriptions => withDescribed made (← toObject descriptions)
  | "getPrototypeOf" =>
    match first with
    | .undefined | .null => typeError "not an object"
    | v => return (← get).scope.parentOf v
  | "setPrototypeOf" =>
    if first matches .undefined | .null then typeError "not an object"
    requireParent second "not an object"
    return underParent first second
  | "defineProperty" =>
    requireObject first
    let key ← propertyKey? inner second
    let description := args.getD 2 .undefined
    requireObject description
    match key with
    | some key => withDescribed first (ofValues [(key, description)])
    | none => return first
  | "defineProperties" =>
    requireObject first
    withDescribed first (← toObject second)
  | "getOwnPropertyNames" =>
    let v ← toObject first
    return .array (((← get).scope.ownKeys v).map .string)
  | "getOwnPropertySymbols" =>
    let _ ← toObject first
    return .array []
  | "groupBy" =>
    let code ← requireFunction second
    return .derived .null (← grouped inner code (← itemsOf inner first))
  | "keys" =>
    let v ← toObject first
    return .array (((← get).scope.listed v).map fun p => .string p.1)
  | "values" => return .array ((← listedValues (← toObject first)).map (·.2))
  | "entries" =>
    let pairs ← listedValues (← toObject first)
    return .array (pairs.map fun (key, v) => .array [.string key, v])
  | "isExtensible" => return .bool first.isObject
  | "isSealed" | "isFrozen" => return .bool !first.isObject
  | "preventExtensions" | "seal" | "freeze" => return first
  | "getOwnPropertyDescriptor" =>
    let v ← toObject first
    match ← propertyKey? inner second with
    | some key => describeOwn v key
    | none => return .undefined
  | "getOwnPropertyDescriptors" =>
    let v ← toObject first
    let keys := (← get).scope.ownKeys v
    let descriptions ← keys.mapM fun key => do return (key, ← describeOwn v key)
    return ofValues descriptions
  | "is" => return .bool (first.same second)
  | "assign" =>
    let mut v ← toObject first
    for source in args.drop 1 do
      for (key, x) in (← get).scope.listed source do
        v ← putOwn v key (← found (x.elim .throws .value))
    return v
  | "fromEntries" =>
    let mut v := ScriptValue.object []
    for entry in ← itemsOf inner first do
      requireObject entry
      let named ← readProperty entry (Properties.indexKey 0)
      let x ← readProperty entry (Properties.indexKey 1)
      if let some key ← propertyKey? inner named then
        v := v.withOwn key x
    return v
  | "hasOwn" => return .bool (← hasOwnNamed inner (← toObject first) second)
  | _ => return .undefined

/-- Calls a function that does to an object what the language can do. -/
def runReflection (inner : Inner ε) (name : String) (args : List ScriptValue) :
    ScriptM ε ScriptValue := do
  let first := args.headD .undefined
  let second := args.tail.headD .undefined
  if name = "apply" then
    let code ← requireFunction first
    let list := args.getD 2 .undefined
    if !list.isObject then typeError "not a object"
    else inner.apply code second (← positioned inner list)
  else
    requireObject first
    let key ← match name with
      | "get" | "has" | "set" | "deleteProperty" | "defineProperty" | "getOwnPropertyDescriptor" =>
        propertyKey? inner second
      | _ => pure none
    match name, key with
    | "get", some key => readProperty first key
    | "has", some key => return .bool ((← get).scope.property key first).isFound
    | "has", none => return .bool false
    | "getOwnPropertyDescriptor", some key => describeOwn first key
    | "getPrototypeOf", _ => return (← get).scope.parentOf first
    | "ownKeys", _ => return .array (((← get).scope.ownKeys first).map .string)
    | "setPrototypeOf", _ =>
      requireParent second "not an object"
      return .bool true
    | "defineProperty", _ =>
      requireObject (args.getD 2 .undefined)
      return .bool true
    | "set", some key =>
      let _ ← putOwn (args.getD 3 first) key (args.getD 2 .undefined)
      return .bool true
    | "set", none | "deleteProperty", _ | "isExtensible", _ | "preventExtensions", _ =>
      return .bool true
    | _, _ => return .undefined

/-- Values that a function makes of others and their positions. -/
def mapped (inner : Inner ε) (code : Code) (this : ScriptValue) (items : List ScriptValue) :
    ScriptM ε (List ScriptValue) :=
  items.zipIdx.mapM fun (item, i) => inner.apply code this [item, .ofNat i]

/-- Calls a function that makes an array or tells one. -/
def runArrayMaker (inner : Inner ε) (name : String) (args : List ScriptValue) :
    ScriptM ε ScriptValue := do
  let first := args.headD .undefined
  match name with
  | "isArray" => return .bool first.isArray
  | "of" => return .array args
  | _ =>
    let code ← match args.tail.headD .undefined with
      | .undefined => pure none
      | f => do pure (some (← requireFunction f))
    let items ←
      if (first matches .undefined | .null) || (← isIterable first) then itemsOf inner first
      else positioned inner (← toObject first)
    match code with
    | none => return .array items
    | some code => return .array (← mapped inner code (args.getD 2 .undefined) items)

/-- Calls a function on a function. A bound function is taken for the function itself. -/
def runFunctionMethod (inner : Inner ε) (name : String) (this : ScriptValue)
    (args : List ScriptValue) : ScriptM ε ScriptValue := do
  let code ← requireFunction this
  let first := args.headD .undefined
  match name with
  | "call" => inner.apply code first (args.drop 1)
  | "apply" =>
    match args.tail.headD .undefined with
    | .undefined | .null => inner.apply code first []
    | list =>
      if !list.isObject then typeError "not a object"
      else inner.apply code first (← positioned inner list)
  | _ => return this

end Script

end HostBridge
