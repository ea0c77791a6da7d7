/-!
# Field names as scripts spell them

Scripts spell a field `mixed_part` as `mixedPart`. Names of fields are ASCII, so only the
letters of ASCII have an upper case here. A character outside ASCII is spelled as it
stands, although it may have an upper case of its own.

## Main definitions

- `Text.camelCase` — the spelling, in one pass
- `Text.pieces` — the nonempty pieces of a name between its underscores
-/

namespace HostBridge.Text

/-- Continues a spelling.

    `started` says that something has been written, `capital` that the next
    character starts a later piece. -/
def camelFrom (started capital : Bool) : List Char → List Char
  | [] => []
  | c :: rest =>
    if c = '_' then camelFrom started started rest
    else (if capital then c.toUpper else c) :: camelFrom true false rest

/-- The name with its underscores dropped and the ASCII letter behind each in upper case,
    except before the first letter. -/
def camelCase (name : String) : String :=
  String.ofList (camelFrom false false name.toList)

/-- The pieces of a text between underscores, empty ones included. -/
def split : List Char → List (List Char)
  | [] => [[]]
  | c :: rest =>
    if c = '_' then [] :: split rest
    else match split rest with
      | [] => [[c]]
      | piece :: pieces => (c :: piece) :: pieces

/-- The nonempty pieces of a name between its underscores. -/
def pieces (name : List Char) : List (List Char) :=
  (split name).filter (!·.isEmpty)

/-- A piece with its first character in upper case, if that is a letter of ASCII. -/
def capitalize : List Char → List Char
  | [] => []
  | c :: rest => c.toUpper :: rest

end HostBridge.Text
