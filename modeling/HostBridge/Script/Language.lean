import HostBridge.Script.Arithmetic
import HostBridge.Script.Reflection
import HostBridge.Text.Percent

/-!
# What the functions of the language do

Every function of the language is called on a value with arguments. Missing arguments
are undefined; a function that is called on its own is called on `undefined`.

## Main definitions

- `Script.classText` — the text of an object by its class
- `Script.writeNotation`, `Script.readNotation` — object notation written and read
- `Script.make`, `Script.construct` — what constructors make
- `Script.runIntrinsic` — a call of any function of the language
-/

namespace HostBridge.Script

variable {ε : Type} [Embedding ε]

/-- The array that `Array` makes of its arguments: one number is its length. -/
def makeArray : List ScriptValue → ScriptM ε ScriptValue
  | [.number n] =>
    let length := n.toFloat.toUInt32
    if length.toFloat == n.toFloat then return .array (List.replicate length.toNat .undefined)
    else raise .range "invalid array length"
  | args => return .array args

/-- The error that its constructor makes of arguments; an aggregate error has the errors
    that it gathers before its message. -/
def makeError (inner : Inner ε) (kind : ErrorKind) (args : List ScriptValue) :
    ScriptM ε ScriptValue := do
  let rest := if kind = .aggregate then args.drop 1 else args
  let message ← match rest.headD .undefined with
    | .undefined => pure []
    | v => textOf inner v
  if kind = .aggregate then
    requireIterable (args.headD .undefined)
  return .error kind message none

/-- The tag that the language puts on an object of its own. -/
def ownTag? : ScriptValue → Option String
  | .fixture .scope => some "global"
  | .fixture .objectNotation => some "JSON"
  | .fixture .math => some "Math"
  | .fixture .reflection => some "Reflect"
  | .fixture .atomics => some "Atomics"
  | .fixture (.shared (.primitive .symbol)) => some "Symbol"
  | .fixture (.shared (.primitive .bigint)) => some "BigInt"
  | .fixture (.shared (.strict name)) =>
    if name = "Proxy" || (Constructor.numberArrays.lookup name).isSome then none else some name
  | _ => none

/-- The class of a value. -/
def className : ScriptValue → String
  | .undefined => "Undefined"
  | .null => "Null"
  | .function _ => "Function"
  | .error .. => "Error"
  | .bool _ | .box (.bool _) _ | .fixture (.shared (.primitive .boolean)) => "Boolean"
  | .number _ | .box (.number _) _ | .fixture (.shared (.primitive .number)) => "Number"
  | .string _ | .box (.string _) _ | .fixture (.shared (.primitive .string)) => "String"
  | v => if v.isArray then "Array" else "Object"

/-- The text of a value by its class, or by the tag that it has or inherits. -/
def classText (v : ScriptValue) : ScriptM ε String := do
  let tag := (v :: (← get).scope.ancestors v).findSome? ownTag?
  return "[object " ++ tag.getD (className v) ++ "]"

/-- The source text of a function. That of a script's own functions is not kept. -/
def sourceText : Code → String
  | .native _ => "function () \x7b\n    [native code]\n\x7d"
  | .intrinsic f => "function " ++ f.name ++ "() \x7b\n    [native code]\n\x7d"
  | _ => "function"

/-- The text under a key of an object, with a text for an undefined one. -/
def textUnder (inner : Inner ε) (v : ScriptValue) (key missing : String) :
    ScriptM ε CodePoints := do
  match ← readProperty v (CodePoints.ofString key) with
  | .undefined => return CodePoints.ofString missing
  | v => textOf inner v

/-- The text of an error: its name and its message. -/
def errorText (inner : Inner ε) (v : ScriptValue) : ScriptM ε CodePoints := do
  if !v.isObject then typeError "not an object"
  let name ← textUnder inner v "name" "Error"
  let message ← textUnder inner v "message" ""
  if message.isEmpty then return name
  else if name.isEmpty then return message
  else return CodePoints.append (name ++ CodePoints.ofString ": ") message

/-- The texts of the items under some positions; a missing one has none. -/
def itemTexts (inner : Inner ε) (v : ScriptValue) : List Nat → ScriptM ε (List CodePoints)
  | [] => return []
  | i :: rest => do
    let text ← match ← readProperty v (Properties.indexKey i) with
      | .undefined | .null => pure []
      | item => textOf inner item
    return text :: (← itemTexts inner v rest)

/-- The texts of the items of an object with a separator between them. -/
def joined (inner : Inner ε) (v separator : ScriptValue) : ScriptM ε CodePoints := do
  let length ← lengthOf inner v
  let between ← match separator with
    | .undefined => pure (CodePoints.ofString ",")
    | separator => textOf inner separator
  return CodePoints.joinPairs (between.intercalate (← itemTexts inner v (List.range length)))

/-- The text of a value of some kind that stands in an object. -/
def boxedText (inner : Inner ε) (kind : PrimitiveKind) (v : ScriptValue) :
    ScriptM ε CodePoints :=
  let x := match v with
    | .box x _ => x
    | v => v
  if x.primitiveKind? = some kind then anyText inner x else typeError kind.refusal

/-- The value of some kind that stands in an object. -/
def unboxed (kind : PrimitiveKind) (v : ScriptValue) : ScriptM ε ScriptValue :=
  let x := match v with
    | .box x _ => x
    | v => v
  if x.primitiveKind? = some kind then return x else typeError kind.refusal

/-- What an attempt to code or decode text comes to. -/
def coded (result : Except Text.CodeError CodePoints) : ScriptM ε ScriptValue :=
  match result with
  | .ok s => return .string s
  | .error e => raise .uri e.message

/-- How deep arrays and objects may nest that are written. -/
def maxWrittenDepth : Nat := 820

/-- The keys that a list of keys names, each once: texts and numbers count. -/
def writtenKeys (inner : Inner ε) (items : List ScriptValue) : ScriptM ε (List CodePoints) := do
  let mut keys : List CodePoints := []
  for item in items do
    let isKey := match item with
      | .string _ | .number _ | .box (.string _) _ | .box (.number _) _ => true
      | _ => false
    if isKey then
      let key ← textOf inner item
      if !keys.contains key then keys := key :: keys
  return keys.reverse

/-- How the second argument of a writer wants object notation to be written. -/
def writingOf (inner : Inner ε) (v : ScriptValue) : ScriptM ε Writing := do
  match v with
  | .function code => return { replacer := some code }
  | v =>
    if v.isArray then return { keys := some (← writtenKeys inner (← positioned inner v)) }
    else return {}

/-- The gap that the third argument of a writer stands for: so many blanks, or a text. -/
def gapOf (inner : Inner ε) (v : ScriptValue) : ScriptM ε String := do
  let blanks (n : ScriptNumber) : String := "".pushn ' ' (min 10 (max 0 n.toInt32.toInt).toNat)
  let start (s : CodePoints) : String :=
    String.ofList (characters (CodePoints.ofUnits (s.units.take 10)))
  match v with
  | .number n => return blanks n
  | .string s => return start s
  | .box (.number _) _ => return blanks (← toNumber inner v)
  | .box (.string _) _ => return start (← textOf inner v)
  | _ => return ""

/-- Writes object notation. -/
def writeNotation (inner : Inner ε) (args : List ScriptValue) : ScriptM ε ScriptValue := do
  let v := args.headD .undefined
  let writing ← writingOf inner (args.getD 1 .undefined)
  let gap ← gapOf inner (args.getD 2 .undefined)
  if maxWrittenDepth < v.depth then raise .internal "stack overflow"
  match ← written inner writing {} false (.object [([], some v)]) [] v with
  | some d => return .text (d.writeIndented gap)
  | none => return .undefined

mutual

/-- What a function makes of a value that has been read, after it made of its parts what
    stands in their place. -/
def revived (inner : Inner ε) (reviver : Code) (holder : ScriptValue) (key : CodePoints)
    (v : ScriptValue) : ScriptM ε ScriptValue := do
  let v ← match v with
    | .array items => do pure (.array (← revivedItems inner reviver v 0 items))
    | .object own => do pure (.object (← revivedOwn inner reviver v own))
    | v => pure v
  inner.apply reviver holder [.string key, v]

/-- What a function makes of the items of an array, from a position on. -/
def revivedItems (inner : Inner ε) (reviver : Code) (holder : ScriptValue) (i : Nat) :
    List ScriptValue → ScriptM ε (List ScriptValue)
  | [] => return []
  | v :: rest => do
    let v ← revived inner reviver holder (Properties.indexKey i) v
    return v :: (← revivedItems inner reviver holder (i + 1) rest)

/-- What a function makes of the properties of an object; `undefined` removes one. -/
def revivedOwn (inner : Inner ε) (reviver : Code) (holder : ScriptValue) :
    List (CodePoints × Option ScriptValue) → ScriptM ε Properties
  | [] => return []
  | (key, none) :: rest => do return (key, none) :: (← revivedOwn inner reviver holder rest)
  | (key, some v) :: rest => do
    match ← revived inner reviver holder key v with
    | .undefined => revivedOwn inner reviver holder rest
    | v => return (key, some v) :: (← revivedOwn inner reviver holder rest)

end

/-- Reads object notation. A failure names the place in the text, and so it has a stack
    from the start. -/
def readNotation (inner : Inner ε) (args : List ScriptValue) : ScriptM ε ScriptValue := do
  let text := characters (← textOf inner (args.headD .undefined))
  match ScriptValue.parse text with
  | .error e =>
    let message := keptMessage (CodePoints.ofString e.message)
    throw (.exception (.error .grammar message (some frame)))
  | .ok v =>
    match args.tail.headD .undefined with
    | .function reviver => revived inner reviver (.object [([], some v)]) [] v
    | _ => return v

/-- Makes the texts of values, for what they throw. -/
def requireTexts (inner : Inner ε) : List ScriptValue → ScriptM ε Unit
  | [] => return ()
  | v :: rest => do
    let _ ← textOf inner v
    requireTexts inner rest

/-- What a constructor makes when it is called as a function. Code, patterns and the time
    are not known here: a function that is made does nothing. -/
def make (inner : Inner ε) (args : List ScriptValue) (c : Constructor) : ScriptM ε ScriptValue :=
  let first := args.headD .undefined
  match c with
  | .error kind => makeError inner kind args
  | .object =>
    match first with
    | .undefined | .null => return .object []
    | v => toObject v
  | .array => makeArray args
  | .function => do
    requireTexts inner args
    return .function (.const .undefined)
  | .primitive .string =>
    if args.isEmpty then return .string []
    else do return .string (← anyText inner first)
  | .primitive .number =>
    if args.isEmpty then return .number (.int 0)
    else do return .number (← makeNumber inner first)
  | .primitive .boolean => return .bool (truth first)
  | .primitive .symbol =>
    match first with
    | .undefined => return .symbol []
    | v => do return .symbol (← textOf inner v)
  | .primitive .bigint => do return .bigint (← makeBigint inner first)
  | .date => return .string []
  | .pattern => return .derived (.sharedBy .pattern) []
  | .strict _ => typeError "must be called with new"

/-- The object around a value of some kind that its constructor makes. -/
def boxedBy (inner : Inner ε) (args : List ScriptValue) (kind : PrimitiveKind) :
    ScriptM ε ScriptValue :=
  match kind, args with
  | .string, .symbol _ :: _ => typeError "cannot convert symbol to string"
  | kind, args => do return .box (← make inner args (.primitive kind)) []

/-- The object that a constructor makes which has to be called as such. -/
def constructStrict (inner : Inner ε) (args : List ScriptValue) (name : String) :
    ScriptM ε ScriptValue := do
  let first := args.headD .undefined
  let made (own : Properties) : ScriptValue := .derived (.sharedBy (.strict name)) own
  if (Constructor.numberArrays.lookup name).isSome then
    let items ←
      if first.isObject then positioned inner first
      else do
        let n := truncate (← toNumber inner first).toFloat
        if n < 0 then raise .range "invalid array index"
        pure (List.replicate n.toUInt32.toNat (.number (.int 0)))
    return made (Properties.indexed items)
  else match name with
  | "Promise" =>
    let _ ← requireFunction first
    return made []
  | "Proxy" =>
    requireObject first
    requireObject (args.tail.headD .undefined)
    return first
  | "DataView" => typeError "ArrayBuffer object expected"
  | "Map" | "Set" | "WeakMap" | "WeakSet" =>
    match first with
    | .undefined | .null => return made []
    | v =>
      let items ← itemsOf inner v
      if name != "Set" then
        let _ ← items.mapM requireObject
      return made []
  | _ =>
    let _ ← toNumber inner first
    return made []

/-- The object that a function makes when it is called as a constructor. -/
def construct (inner : Inner ε) (callee : ScriptValue) (args : List ScriptValue) :
    ScriptM ε ScriptValue := do
  match callee with
  | .function (.intrinsic (.constructor c)) =>
    match c with
    | .primitive .symbol | .primitive .bigint => typeError "not a constructor"
    | .primitive kind => boxedBy inner args kind
    | .date => return .derived (.sharedBy .date) []
    | .strict name => constructStrict inner args name
    | c => make inner args c
  | .function code =>
    if code.isConstructor then
      let made ← inner.apply code (.object []) args
      return if made.isObject then made else .object []
    else typeError "not a constructor"
  | v => typeError (if v.isObject then "not a constructor" else "not a function")

/-- The complaint of a function that objects of a kind share about a value of another
    kind, given whether the value is `undefined` or `null`. -/
def kindRefusal? (c : Constructor) (name : String) (isNothing : Bool) : Option String :=
  match c with
  | .array => if isNothing then some "cannot convert to object" else none
  | .primitive .string =>
    if !isNothing then none
    else if ["match", "matchAll", "search", "split", "replace", "replaceAll"].contains name then
      some "cannot convert to object"
    else some "null or undefined are forbidden"
  | .primitive kind => some kind.refusal
  | .date =>
    if name = "toJSON" then if isNothing then some "cannot convert to object" else none
    else some "not a Date object"
  | .pattern =>
    if name = "exec" || name = "compile" then some "RegExp object expected"
    else some "not an object"
  | .strict "Promise" =>
    match name with
    | "then" => some "Promise object expected"
    | "catch" => if isNothing then some "cannot read property 'then' of undefined" else none
    | _ => some "not an object"
  | .strict kind =>
    if (Constructor.numberArrays.lookup kind).isSome then some "not a TypedArray"
    else some (kind ++ " object expected")
  | _ => none

/-- Calls a function that objects of a kind share. Of most only what they refuse is
    known. -/
def runShared (inner : Inner ε) (c : Constructor) (name : String) (this : ScriptValue)
    (args : List ScriptValue) : ScriptM ε ScriptValue :=
  match c with
  | .function => runFunctionMethod inner name this args
  | c =>
    match kindRefusal? c name (this matches .undefined | .null) with
    | some message => typeError message
    | none => return .undefined

/-- Calls a function that an object of the language holds under a name. -/
def runHeld (inner : Inner ε) (this : ScriptValue) (args : List ScriptValue) (name : String) :
    Holder → ScriptM ε ScriptValue :=
  let first := args.headD .undefined
  fun holder => match holder with
  | .fixture .math => runMath inner name args
  | .fixture .reflection =>
    if name = "construct" then do
      let list := args.getD 1 .undefined
      if !list.isObject then typeError "not a object"
      construct inner first (← positioned inner list)
    else runReflection inner name args
  | .fixture .atomics =>
    if name = "isLockFree" then do
      let n ← toNumber inner first
      return .bool ([1, 2, 4, 8].contains n.toInt32)
    else typeError "integer TypedArray expected"
  | .fixture (.shared c) => runShared inner c name this args
  | .fixture _ => return .undefined
  | .maker .object => runObject inner name args
  | .maker .array => runArrayMaker inner name args
  | .maker (.primitive .number) => return runNumberTest name first
  | .maker (.primitive .string) => runTextMaker inner name args
  | .maker (.primitive .bigint) => runBigintMaker inner name args
  | .maker (.primitive .symbol) =>
    if name = "for" then do return .symbol (← textOf inner first)
    else match first with
      | .symbol _ => return .undefined
      | _ => typeError "not a symbol"
  | .maker (.strict "Promise") => do
    requireObject this
    return .undefined
  | .maker (.strict "ArrayBuffer") => return .bool false
  | .maker (.strict "Proxy") => do
    requireObject first
    requireObject (args.tail.headD .undefined)
    return ofNames [("proxy", first), ("revoke", .function (.const .undefined))]
  | .maker (.strict "Map") => do
    let code ← requireFunction (args.tail.headD .undefined)
    let _ ← grouped inner code (← itemsOf inner first)
    return .derived (.sharedBy (.strict "Map")) []
  | .maker (.strict _) => typeError "not a constructor"
  | .maker .date => if name = "UTC" then runMoment inner args else return .number .nan
  | .maker _ => return .undefined

/-- Calls a function of the language on a value. -/
def runIntrinsic (inner : Inner ε) (this : ScriptValue) (args : List ScriptValue) :
    Intrinsic → ScriptM ε ScriptValue :=
  let first := args.headD .undefined
  let second := args.tail.headD .undefined
  fun f => match f with
  | .constructor c => make inner args c
  | .parseInteger => do
    let text := (characters (← textOf inner first)).takeWhile (· ≠ '\x00')
    let base ← toNumber inner second
    return .number (.parseInteger base.wrapInt32.toInt text)
  | .parseFloat => do
    return .number (.parsePrefix ((characters (← textOf inner first)).takeWhile (· ≠ '\x00')))
  | .isNaN => do return .bool (← toNumber inner first).toFloat.isNaN
  | .isFinite => do return .bool (← toNumber inner first).isFinite
  | .evaluate =>
    match first with
    | .string _ => return .undefined
    | v => return v
  | .encode marks => do
    coded ((Text.percentEncode marks (← textOf inner first)).map CodePoints.ofChars)
  | .decode marks => do coded (Text.percentDecode marks (← textOf inner first))
  | .escape => do
    return .string (CodePoints.ofChars (Text.escapeUnits (← textOf inner first)))
  | .unescape => do return .string (Text.unescapeUnits (← textOf inner first))
  | .classText => do return .text (← classText this)
  | .localText => do
    inner.apply (← requireFunction (← readMember this "toString")) this []
  | .itself => toObject this
  | .hasOwn => do
    let key ← propertyKey? inner first
    let v ← toObject this
    match key with
    | some key => return .bool ((← get).scope.ownOf key v).isFound
    | none => return .bool false
  | .isParent => do
    if first.isObject then
      let _ ← toObject this
    return .bool false
  | .isListed => do
    let v ← toObject this
    let key ← propertyKey? inner first
    return .bool (((← get).scope.listed v).any fun p => key = some p.1)
  | .accessor .. => do
    let _ ← toObject this
    return .undefined
  | .arrayText => do
    let v ← toObject this
    match ← readProperty v (CodePoints.ofString "join") with
    | .function code => inner.apply code v []
    | _ => return .text (← classText v)
  | .join => do return .string (← joined inner (← toObject this) first)
  | .functionText => do return .text (sourceText (← requireFunction this))
  | .errorText => do return .string (← errorText inner this)
  | .boxText kind => do return .string (← boxedText inner kind this)
  | .unbox kind => unboxed kind this
  | .stringify => writeNotation inner args
  | .parse => readNotation inner args
  | .idle => return .undefined
  | .held holder name _ => runHeld inner this args name holder

end HostBridge.Script
