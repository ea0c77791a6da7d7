import HostBridge.Script.Value

/-!
# Properties of script values

An object has properties of its own and inherits the others from its ancestors: its
prototype, the prototype of that and so on.

## Main definitions

- `Properties.put` — properties in the order in which they are listed
- `Lookup` — what reading a property comes to
- `Scope` — the global variables and the list of seen values
- `Scope.ownOf`, `Scope.ancestors`, `Scope.property` — properties of a value
- `Scope.global`, `Scope.assign` — global variables
- `Scope.listed` — the properties that a value lists
-/

namespace HostBridge

/-- The properties of an object, in the order in which they are listed. A property
    without a value is a getter that throws. -/
abbrev Properties := List (CodePoints × Option ScriptValue)

namespace Properties

/-- The number that a key is the decimal text of, if it is an array index. -/
def index? (key : CodePoints) : Option Nat :=
  key.toChars?.bind fun digits =>
    let n := Decimal.valueOf digits
    if digits ≠ [] && digits.all Char.isDigit &&
        (digits.head? != some '0' || digits.length = 1) && n < 0xFFFFFFFF then some n
    else none

/-- Whether a new key is listed before a key that is there: indices come first, in
    increasing order. -/
def precedes (new old : CodePoints) : Bool :=
  match index? new, index? old with
  | some n, some m => n < m
  | some _, none => true
  | none, _ => false

/-- Sets a property. -/
def put (own : Properties) (key : CodePoints) (value : Option ScriptValue) : Properties :=
  if own.any (·.1 = key) then own.map fun p => if p.1 = key then (key, value) else p
  else own.takeWhile (fun p => !precedes key p.1) ++
    (key, value) :: own.dropWhile fun p => !precedes key p.1

/-- The decimal text of a position. -/
def indexKey (i : Nat) : CodePoints := CodePoints.ofString (toString i)

/-- Values under their positions. -/
def indexed (items : List ScriptValue) : Properties :=
  items.zipIdx.map fun (v, i) => (indexKey i, some v)

end Properties

/-- What reading a property comes to. -/
inductive Lookup where
  | missing
  | value (v : ScriptValue)
  /-- A value that cannot be assigned to. -/
  | constant (v : ScriptValue)
  /-- A value that a getter gives. There is no setter. -/
  | computed (v : ScriptValue)
  /-- The property is a getter that throws. -/
  | throws
  /-- The property may neither be read nor set. -/
  | forbidden
  /-- The property gives the prototype of the object and takes a new one. -/
  | parent

/-- The key under which an object gives its prototype. -/
def parentKey : CodePoints := CodePoints.ofString "__proto__"

namespace ScriptValue

/-- The object from which all others inherit in the end. -/
def root : ScriptValue := .fixture (.shared .object)

/-- The object from which what a constructor makes inherits. What functions share is a
    function itself. -/
def sharedBy (c : Constructor) : ScriptValue :=
  if c = .function then .function (.intrinsic .idle) else .fixture (.shared c)

/-- A constructor as a value. -/
def maker (c : Constructor) : ScriptValue := .function (.intrinsic (.constructor c))

/-- The kind of a value without parts that can stand in an object. -/
def primitiveKind? : ScriptValue → Option PrimitiveKind
  | .string _ => some .string
  | .number _ => some .number
  | .bool _ => some .boolean
  | .symbol _ => some .symbol
  | .bigint _ => some .bigint
  | _ => none

/-- The units of a text as texts of their own. -/
def unitTexts (s : CodePoints) : List ScriptValue :=
  s.units.map fun unit => .string [CodePoints.ofUnit unit]

end ScriptValue

namespace Lookup

open ScriptValue

/-- What comes of a lookup that goes on elsewhere if nothing is found. -/
def orElse : Lookup → Lookup → Lookup
  | missing, next => next
  | found, _ => found

/-- The value that was found. -/
def value? : Lookup → Option ScriptValue
  | value v | constant v | computed v => some v
  | _ => none

/-- Whether a property is there, be it a getter that throws. -/
def isFound : Lookup → Bool
  | missing => false
  | _ => true

/-- The property with a key among those of an object's own. -/
def own (properties : Properties) (key : CodePoints) : Lookup :=
  match properties.find? (·.1 = key) with
  | none => missing
  | some (_, some v) => value v
  | some (_, none) => throws

/-- The function with a name among functions of the language. -/
def member (functions : List Intrinsic) (key : CodePoints) : Lookup :=
  match key.toString?.bind (Intrinsic.find? functions) with
  | some f => value (.function (.intrinsic f))
  | none => missing

/-- The value with a name among constants. -/
def constants (values : List (String × ScriptValue)) (key : CodePoints) : Lookup :=
  match key.toString?.bind fun name => values.lookup name with
  | some v => constant v
  | none => missing

/-- A property under a name. -/
def named (name : String) (v : ScriptValue) (key : CodePoints) : Lookup :=
  if key = CodePoints.ofString name then value v else missing

/-- An item of a list, or its length. -/
def items (items : List ScriptValue) (key : CodePoints) : Lookup :=
  match (Properties.index? key).bind (items[·]?) with
  | some v => value v
  | none => named "length" (.ofNat items.length) key

/-- A property of an error's own: its message or its stack. -/
def error (message : CodePoints) (stack : Option CodePoints) (key : CodePoints) : Lookup :=
  (named "message" (.string message) key).orElse (named "stack" (.string (stack.getD [])) key)

/-- A property of a text's own: a unit or their number. Nothing else without parts has
    properties of its own. -/
def primitive (v : ScriptValue) (key : CodePoints) : Lookup :=
  match v with
  | .string s =>
    match (Properties.index? key).bind ((unitTexts s)[·]?) with
    | some unit => constant unit
    | none => constants [("length", .ofNat s.units.length)] key
  | _ => missing

/-- The constants that a constructor holds. -/
def constantsOf : Constructor → List (String × ScriptValue)
  | .primitive .number =>
    [("MAX_VALUE", .ofFloat (Float.ofBits 0x7FEFFFFFFFFFFFFF)),
      ("MIN_VALUE", .ofFloat (Float.ofBits 1)), ("NaN", .number .nan),
      ("NEGATIVE_INFINITY", .ofFloat (-1 / 0)), ("POSITIVE_INFINITY", .ofFloat (1 / 0)),
      ("EPSILON", .ofFloat (Float.ofBits 0x3CB0000000000000)),
      ("MAX_SAFE_INTEGER", .ofFloat 9007199254740991),
      ("MIN_SAFE_INTEGER", .ofFloat (-9007199254740991))]
  | .primitive .symbol =>
    ["toPrimitive", "iterator", "match", "matchAll", "replace", "search", "split", "toStringTag",
      "isConcatSpreadable", "hasInstance", "species", "unscopables", "asyncIterator"].map
      fun name => (name, .symbol (CodePoints.ofString ("Symbol." ++ name)))
  | .strict name =>
    match Constructor.numberArrays.lookup name with
    | some size => [("BYTES_PER_ELEMENT", .ofNat size)]
    | none => []
  | _ => []

/-- The constants of mathematics. -/
def mathConstants : List (String × ScriptValue) :=
  [("E", .ofFloat (Float.ofBits 0x4005BF0A8B145769)),
    ("LN10", .ofFloat (Float.ofBits 0x40026BB1BBB55516)),
    ("LN2", .ofFloat (Float.ofBits 0x3FE62E42FEFA39EF)),
    ("LOG2E", .ofFloat (Float.ofBits 0x3FF71547652B82FE)),
    ("LOG10E", .ofFloat (Float.ofBits 0x3FDBCB7B1526E50E)),
    ("PI", .ofFloat (Float.ofBits 0x400921FB54442D18)),
    ("SQRT1_2", .ofFloat (Float.ofBits 0x3FE6A09E667F3BCD)),
    ("SQRT2", .ofFloat (Float.ofBits 0x3FF6A09E667F3BCD))]

/-- What all functions share besides functions: the place where a function stands, which
    is not kept, and the call that a function is in, which nobody may ask for. -/
def origin (key : CodePoints) : Lookup :=
  match key.toString? with
  | some "fileName" | some "lineNumber" => computed .undefined
  | some "caller" | some "arguments" => forbidden
  | _ => missing

/-- A property of a function's own. A function of the script has an object for what it
    makes, and it may be replaced. -/
def function (code : Code) (key : CodePoints) : Lookup :=
  let common := constants [("length", .ofNat code.arity), ("name", .text code.name)] key
  common.orElse <| match code with
  | .intrinsic (.constructor c) =>
    (constants (("prototype", sharedBy c) :: constantsOf c) key).orElse (member c.members key)
  | .intrinsic .idle =>
    ((named "constructor" (maker .function) key).orElse (origin key)).orElse
      (member (Fixture.ofMaker .function) key)
  | .intrinsic _ | .native _ => missing
  | _ => named "prototype" (.object []) key

/-- A property that an object of the language has beside its functions. -/
def extra (f : Fixture) (key : CodePoints) : Lookup :=
  match f with
  | .math => constants mathConstants key
  | .shared .object => if key = parentKey then parent else missing
  | .shared .array => named "length" (.ofNat 0) key
  | .shared (.primitive .string) => constants [("length", .ofNat 0)] key
  | .shared (.error kind) =>
    (named "name" (.text kind.name) key).orElse (named "message" (.string []) key)
  | .shared (.strict name) => constants (constantsOf (.strict name)) key
  | _ => missing

/-- A property of an object of the language's own. -/
def fixture (f : Fixture) (key : CodePoints) : Lookup :=
  let made := match f with
    | .shared c => named "constructor" (maker c) key
    | _ => missing
  ((extra f key).orElse made).orElse (member f.members key)

end Lookup

/-- What scripts share: the global variables, the prototype of the global scope and the
    list of seen values. -/
structure Scope where
  globals : List (CodePoints × ScriptValue) := []
  parent : ScriptValue := .root
  seen : List ScriptValue := []

/-- Why a global variable cannot be set. -/
inductive AssignError where
  | readOnly
  | noSetter
  | forbidden
  /-- The new prototype of the scope inherits from the scope. -/
  | circular
deriving DecidableEq, Repr

namespace Scope

open ScriptValue

/-- The global variables that scripts cannot set. -/
def constants : List (String × ScriptValue) :=
  [("NaN", .number .nan), ("Infinity", .ofFloat (1 / 0)), ("undefined", .undefined)]

/-- The objects of the language under their names. -/
def fixtures : List (String × Fixture) :=
  [("JSON", .objectNotation), ("Math", .math), ("Reflect", .reflection), ("Atomics", .atomics),
    ("globalThis", .scope)]

/-- What the language has under the name of a global variable. -/
def initial (name : CodePoints) : Lookup :=
  (Lookup.constants constants name).orElse <|
    match name.toString?.bind fun text => fixtures.lookup text with
    | some f => .value (.fixture f)
    | none => .member Intrinsic.globals name

/-- A global variable of the scope's own: as it was set, or else as the language has it. -/
def own (s : Scope) (name : CodePoints) : Lookup :=
  match s.globals.lookup name with
  | some v => .value v
  | none => initial name

/-- A property of a value's own. -/
def ownOf (s : Scope) (key : CodePoints) : ScriptValue → Lookup
  | .object own | .derived _ own => .own own key
  | .array items => .items items key
  | .seen => .items s.seen key
  | .error _ message stack => .error message stack key
  | .cyclic => .named "self" .cyclic key
  | .function code => .function code key
  | .box v own => (Lookup.own own key).orElse (.primitive v key)
  | .fixture .scope => s.own key
  | .fixture f => .fixture f key
  | v => .primitive v key

/-- What a constructor makes inherits from these objects, the nearest first. -/
def sharedLine : Constructor → List ScriptValue
  | .object => [root]
  | .error .error => [sharedBy (.error .error), root]
  | .error kind => [sharedBy (.error kind), sharedBy (.error .error), root]
  | c => [sharedBy c, root]

/-- The objects from which a value inherits, the nearest first, given those from which
    the global scope does. -/
def ancestorsIn (line : List ScriptValue) : ScriptValue → List ScriptValue
  | .undefined | .null => []
  | .object _ | .cyclic => [root]
  | .derived .null _ => []
  | .derived parent _ => parent :: ancestorsIn line parent
  | .array _ | .seen => sharedLine .array
  | .error kind .. => sharedLine (.error kind)
  | .function (.intrinsic .idle) => [root]
  | .function (.intrinsic (.constructor (.error kind))) =>
    if kind = .error then sharedLine .function else maker (.error .error) :: sharedLine .function
  | .function _ => sharedLine .function
  | .fixture .scope => line
  | .fixture (.shared c) => (sharedLine c).drop 1
  | .fixture _ => [root]
  | .box v _ | v =>
    match v.primitiveKind? with
    | some kind => sharedLine (.primitive kind)
    | none => [root]

/-- The objects from which the global scope inherits, the nearest first. It does not
    inherit from itself. -/
def line (s : Scope) : List ScriptValue :=
  match s.parent with
  | .null => []
  | parent => parent :: ancestorsIn [] parent

/-- The objects from which a value inherits, the nearest first. -/
def ancestors (s : Scope) (v : ScriptValue) : List ScriptValue :=
  ancestorsIn s.line v

/-- The prototype of a value, or `null`. -/
def parentOf (s : Scope) (v : ScriptValue) : ScriptValue :=
  (s.ancestors v).headD .null

/-- The property with a key of the first value that has one. -/
def first (s : Scope) (key : CodePoints) : List ScriptValue → Lookup
  | [] => .missing
  | v :: rest => (s.ownOf key v).orElse (s.first key rest)

/-- A property by its key, inherited or not. -/
def property (s : Scope) (key : CodePoints) (v : ScriptValue) : Lookup :=
  match s.first key (v :: s.ancestors v) with
  | .parent => .value (s.parentOf v)
  | found => found

/-- A global variable, be it inherited or the scope's own. -/
def global (s : Scope) (name : CodePoints) : Lookup :=
  s.property name (.fixture .scope)

/-- Whether a value inherits from what a constructor makes. -/
def inherits (s : Scope) (c : Constructor) (v : ScriptValue) : Bool :=
  (s.ancestors v).any fun a => match a with
    | .fixture f => f = .shared c
    | _ => false

/-- Whether a value is the global scope. -/
def isScope : ScriptValue → Bool
  | .fixture .scope => true
  | _ => false

/-- Sets a global variable of the scope's own, behind the others if it is new. -/
def set (s : Scope) (name : CodePoints) (v : ScriptValue) : Scope :=
  if s.globals.any (·.1 == name) then
    { s with globals := s.globals.map fun p => if p.1 == name then (name, v) else p }
  else { s with globals := s.globals ++ [(name, v)] }

/-- Gives the scope a new prototype, unless that is no object. -/
def setParent (s : Scope) (v : ScriptValue) : Except AssignError Scope :=
  match v with
  | .null => .ok { s with parent := .null }
  | v =>
    if !v.isObject then .ok s
    else if isScope v || (ancestorsIn [] v).any isScope then .error .circular
    else .ok { s with parent := v }

/-- Sets a global variable as an assignment does: what is inherited and cannot be
    assigned to refuses. -/
def assign (s : Scope) (name : CodePoints) (v : ScriptValue) : Except AssignError Scope :=
  match (s.own name).orElse (s.first name s.line) with
  | .constant _ => .error .readOnly
  | .computed _ | .throws => .error .noSetter
  | .forbidden => .error .forbidden
  | .parent => s.setParent v
  | .missing | .value _ => .ok (s.set name v)

/-- The properties that a value lists. -/
def listed (s : Scope) : ScriptValue → Properties
  | .object own | .derived _ own => own
  | .array items => Properties.indexed items
  | .seen => Properties.indexed s.seen
  | .cyclic => [(CodePoints.ofString "self", some .cyclic)]
  | .string t => Properties.indexed (unitTexts t)
  | .box (.string t) own => Properties.indexed (unitTexts t) ++ own
  | .box _ own => own
  | .fixture .scope =>
    s.globals.foldl (fun own (name, v) =>
      if (initial name).isFound then own else Properties.put own name (some v)) []
  | _ => []

end Scope

end HostBridge
