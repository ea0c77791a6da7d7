import HostBridge.Json.Token

/-!
# Trees of object notation

The tree of a text of object notation, with numbers as they are written and with the
members of an object as they are listed. Every reader of this library starts from
this tree; readers differ in what they accept of it.

## Main definitions

- `Json.Tree` — the tree of a text
- `Json.Reading` — where a reader of tokens stands
- `Json.Tree.parse?` — reads one tree and nothing behind it
- `Json.Tree.depth` — how deep arrays and objects nest
-/

namespace HostBridge.Json

/-- The tree of a text of object notation. -/
inductive Tree where
  | null
  | bool (b : Bool)
  | number (n : Number)
  | string (s : CodePoints)
  | array (items : List Tree)
  | object (members : List (CodePoints × Tree))
deriving Repr

/-- An array or an object whose end has not been read. What has been read of it
    stands in reverse; an object awaits the value of a key. -/
inductive Frame where
  | array (items : List Tree)
  | object (members : List (CodePoints × Tree)) (key : CodePoints)

/-- Where a reader of tokens stands, inside the given frames. -/
inductive Reading where
  /-- A value must follow. -/
  | value (frames : List Frame)
  /-- The first item or the end of an array must follow. -/
  | items (frames : List Frame)
  /-- A key must follow; before the first member the end of the object may. -/
  | key (members : List (CodePoints × Tree)) (frames : List Frame)
  /-- A colon must follow. -/
  | colon (members : List (CodePoints × Tree)) (key : CodePoints) (frames : List Frame)
  /-- A value has been read. -/
  | done (v : Tree) (frames : List Frame)

namespace Reading

/-- Reads a token where a value must stand. -/
def startValue (frames : List Frame) : Token → Option Reading
  | .null => some (.done .null frames)
  | .bool b => some (.done (.bool b) frames)
  | .number n => some (.done (.number n) frames)
  | .string s => some (.done (.string s) frames)
  | .openArray => some (.items frames)
  | .openObject => some (.key [] frames)
  | _ => none

/-- Reads a token behind a value. -/
def afterValue (v : Tree) : List Frame → Token → Option Reading
  | .array read :: frames, .comma => some (.value (.array (v :: read) :: frames))
  | .array read :: frames, .closeArray => some (.done (.array (v :: read).reverse) frames)
  | .object read k :: frames, .comma => some (.key ((k, v) :: read) frames)
  | .object read k :: frames, .closeObject =>
    some (.done (.object ((k, v) :: read).reverse) frames)
  | _, _ => none

/-- Reads one token. -/
def step : Reading → Token → Option Reading
  | .value frames, t => startValue frames t
  | .items frames, .closeArray => some (.done (.array []) frames)
  | .items frames, t => startValue (.array [] :: frames) t
  | .key [] frames, .closeObject => some (.done (.object []) frames)
  | .key read frames, .string s => some (.colon read s frames)
  | .key _ _, _ => none
  | .colon read k frames, .colon => some (.value (.object read k :: frames))
  | .colon _ _ _, _ => none
  | .done v frames, t => afterValue v frames t

/-- Reads tokens one after the other. -/
def run : Reading → List Token → Option Reading
  | r, [] => some r
  | r, t :: rest => (r.step t).bind fun next => run next rest

/-- The tree that has been read, if all frames are closed. -/
def result? : Reading → Option Tree
  | .done v [] => some v
  | _ => none

end Reading

namespace Tree

/-- The first member of an object with a key. -/
def member? (t : Tree) (key : String) : Option Tree :=
  match t with
  | object members => members.lookup (CodePoints.ofString key)
  | _ => none

/-- The items of an array; nothing else has any. -/
def items : Tree → List Tree
  | array items => items
  | _ => []

/-- The tree of a list of tokens. -/
def ofTokens? (tokens : List Token) : Option Tree :=
  ((Reading.value []).run tokens).bind Reading.result?

/-- Reads one tree and nothing behind it. -/
def parse? (text : String) : Option Tree :=
  (Token.lex? text.toList).bind ofTokens?

mutual

/-- How deep arrays and objects nest in a tree. -/
def depth : Tree → Nat
  | array items => itemsDepth items + 1
  | object members => membersDepth members + 1
  | _ => 0

/-- Greatest depth of the items of an array. -/
def itemsDepth : List Tree → Nat
  | [] => 0
  | v :: rest => max v.depth (itemsDepth rest)

/-- Greatest depth of the values of an object. -/
def membersDepth : List (CodePoints × Tree) → Nat
  | [] => 0
  | (_, v) :: rest => max v.depth (membersDepth rest)

end

end Tree

end HostBridge.Json
