import HostBridge.Text.CodePoint
import HostBridge.Text.Hex

/-!
# Written object notation

A document is what is written: numbers are already text, because each kind of number
has a format of its own. Documents are written without blanks, or on lines that are
indented.

## Main definitions

- `Json.Document` — what is written
- `Json.Document.write`, `Json.Document.writeIndented` — its text
-/

namespace HostBridge.Json

/-- What is written as object notation. -/
inductive Document where
  | null
  | bool (b : Bool)
  | number (text : String)
  | string (s : CodePoints)
  | array (items : List Document)
  | object (members : List (CodePoints × Document))

namespace Document

/-- The escape of a unit by its number. -/
def escapeUnit (n : Nat) : List Char :=
  '\\' :: 'u' :: (Text.hexPadded 4 n).toList

/-- The form of a code point inside a string literal. -/
def escape : CodePoint → List Char
  | .surrogate unit => escapeUnit unit.toNat
  | .scalar c =>
    match c with
    | '"' => ['\\', '"']
    | '\\' => ['\\', '\\']
    | '\x08' => ['\\', 'b']
    | '\x0c' => ['\\', 'f']
    | '\n' => ['\\', 'n']
    | '\r' => ['\\', 'r']
    | '\t' => ['\\', 't']
    | c => if c.toNat < 0x20 then escapeUnit c.toNat else [c]

/-- A string literal. -/
def literal (s : CodePoints) : List Char :=
  '"' :: s.flatMap escape ++ ['"']

mutual

/-- The characters of a document. -/
def chars : Document → List Char
  | null => ['n', 'u', 'l', 'l']
  | bool true => ['t', 'r', 'u', 'e']
  | bool false => ['f', 'a', 'l', 's', 'e']
  | number text => text.toList
  | string s => literal s
  | array [] => ['[', ']']
  | array (v :: rest) => '[' :: v.chars ++ itemChars rest
  | object [] => ['\x7b', '\x7d']
  | object ((key, v) :: rest) => '\x7b' :: literal key ++ ':' :: v.chars ++ memberChars rest

/-- The characters behind the first item of an array. -/
def itemChars : List Document → List Char
  | [] => [']']
  | v :: rest => ',' :: v.chars ++ itemChars rest

/-- The characters behind the first member of an object. -/
def memberChars : List (CodePoints × Document) → List Char
  | [] => ['\x7d']
  | (key, v) :: rest => ',' :: literal key ++ ':' :: v.chars ++ memberChars rest

end

/-- The text of a document. -/
def write (d : Document) : String :=
  String.ofList d.chars

mutual

/-- The characters of a document on lines of their own for items and members, each
    behind as many gaps as it is deep. -/
def indentedChars (gap indent : List Char) : Document → List Char
  | array (v :: rest) =>
    let inside := indent ++ gap
    '[' :: '\n' :: inside ++ indentedChars gap inside v ++ indentedItems gap indent rest
  | object ((key, v) :: rest) =>
    let inside := indent ++ gap
    '\x7b' :: '\n' :: inside ++ literal key ++ ':' :: ' ' :: indentedChars gap inside v ++
      indentedMembers gap indent rest
  | d => d.chars

/-- The lines behind the first item of an array. -/
def indentedItems (gap indent : List Char) : List Document → List Char
  | [] => '\n' :: indent ++ [']']
  | v :: rest =>
    let inside := indent ++ gap
    ',' :: '\n' :: inside ++ indentedChars gap inside v ++ indentedItems gap indent rest

/-- The lines behind the first member of an object. -/
def indentedMembers (gap indent : List Char) : List (CodePoints × Document) → List Char
  | [] => '\n' :: indent ++ ['\x7d']
  | (key, v) :: rest =>
    let inside := indent ++ gap
    ',' :: '\n' :: inside ++ literal key ++ ':' :: ' ' :: indentedChars gap inside v ++
      indentedMembers gap indent rest

end

/-- The text of a document, on lines that gaps indent; without a gap it has no lines. -/
def writeIndented (gap : String) (d : Document) : String :=
  if gap.isEmpty then d.write else String.ofList (indentedChars gap.toList [] d)

end Document

end HostBridge.Json
