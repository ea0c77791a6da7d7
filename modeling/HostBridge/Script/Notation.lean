import HostBridge.Script.Literal
import HostBridge.Script.Property

/-!
# Object notation read by scripts

A script that reads object notation gets a value, or learns why the text is none. The
reader looks at one token at a time: a literal, a word or a character on its own.

## Main definitions

- `Notation.Cursor` — a token and the text behind it
- `Notation.readValue` — reads a value from a token on
- `ScriptValue.parse` — the value of a text
-/

namespace HostBridge

namespace Notation

/-- A token of a text. -/
inductive Token where
  | string (s : CodePoints)
  | number (n : Json.Number)
  | word (letters : List Char)
  /-- A character on its own. -/
  | mark (c : Char)
  | finish
deriving DecidableEq, Repr

/-- Whether a character can stand in a word. -/
def isWordPart (c : Char) : Bool :=
  c.isAlphanum || c = '_' || c = '$'

/-- Where a reader stands: the next token and the text behind it. -/
structure Cursor where
  token : Token
  rest : List Char

/-- Reads the next token of a text. -/
def Cursor.of (s : List Char) : Except NotationError Cursor :=
  match s.dropWhile Json.Token.isSpace with
  | [] => .ok ⟨.finish, []⟩
  | '"' :: rest => (Script.scanString rest).map fun (t, tail) => ⟨.string t, tail⟩
  | c :: rest =>
    if isWordPart c && !c.isDigit then
      .ok ⟨.word (c :: rest.takeWhile isWordPart), rest.dropWhile isWordPart⟩
    else match Script.scanNumber (c :: rest) with
      | some (n, tail) => .ok ⟨.number n, tail⟩
      | none => if 0x80 ≤ c.toNat then .error .character else .ok ⟨.mark c, rest⟩

/-- Goes on to the next token. -/
def Cursor.next (c : Cursor) : Except NotationError Cursor :=
  Cursor.of c.rest

/-- Goes on behind a character that has to stand here. -/
def Cursor.behind (c : Cursor) (expected : Char) : Except NotationError Cursor :=
  if c.token = .mark expected then c.next else .error (.expected expected)

/-- How deep arrays and objects may nest in a text. -/
def maxDepth : Nat := 1900

/-- The value that a word stands for. -/
def wordValue? (letters : List Char) : Option ScriptValue :=
  if letters = "null".toList then some .null
  else if letters = "true".toList then some (.bool true)
  else if letters = "false".toList then some (.bool false)
  else none

mutual

/-- Reads a value inside so many arrays and objects; `fuel` bounds the number of tokens. -/
def readValue (fuel depth : Nat) (c : Cursor) : Except NotationError (ScriptValue × Cursor) :=
  match fuel with
  | 0 => .error .nesting
  | fuel + 1 =>
    match c.token with
    | .string s => return (.string s, ← c.next)
    | .number n => return (.number (.ofNumber n), ← c.next)
    | .word letters =>
      match wordValue? letters with
      | some v => return (v, ← c.next)
      | none => throw (.token letters)
    | .mark '[' => do
      if maxDepth ≤ depth then throw .nesting
      let inside ← c.next
      if inside.token = .mark ']' then return (.array [], ← inside.next)
      let (items, behind) ← readItems fuel (depth + 1) inside
      return (.array items, ← behind.behind ']')
    | .mark '\x7b' => do
      if maxDepth ≤ depth then throw .nesting
      let inside ← c.next
      if inside.token = .mark '\x7d' then return (.object [], ← inside.next)
      let (own, behind) ← readMembers fuel (depth + 1) [] inside
      return (.object own, ← behind.behind '\x7d')
    | .mark other => throw (.token (if other = '\x00' then [] else [other]))
    | .finish => throw .endOfInput

/-- Reads values with commas between them. -/
def readItems (fuel depth : Nat) (c : Cursor) :
    Except NotationError (List ScriptValue × Cursor) :=
  match fuel with
  | 0 => .error .nesting
  | fuel + 1 => do
    let (v, behind) ← readValue fuel depth c
    if behind.token = .mark ',' then
      let (rest, tail) ← readItems fuel depth (← behind.next)
      return (v :: rest, tail)
    else return ([v], behind)

/-- Reads members with commas between them, behind those that have been read. Of several
    members with one name the last counts. -/
def readMembers (fuel depth : Nat) (read : Properties) (c : Cursor) :
    Except NotationError (Properties × Cursor) :=
  match fuel with
  | 0 => .error .nesting
  | fuel + 1 =>
    match c.token with
    | .string key => do
      let (v, behind) ← readValue fuel depth (← (← c.next).behind ':')
      let read := Properties.put read key (some v)
      if behind.token = .mark ',' then readMembers fuel depth read (← behind.next)
      else return (read, behind)
    | _ => .error .memberName

end

end Notation

/-- The value that a text of object notation denotes, with nothing behind it. -/
def ScriptValue.parse (text : List Char) : Except NotationError ScriptValue := do
  let (v, behind) ← Notation.readValue (2 * text.length + 2) 0 (← Notation.Cursor.of text)
  if behind.token = .finish then return v else throw .trailing

end HostBridge
