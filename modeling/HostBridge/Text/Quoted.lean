import HostBridge.Text.Hex
import HostBridge.Text.Unprintable

/-!
# Quoted text

Diagnostic text quotes a string: quotes and backslashes are escaped, common controls
have short names, and characters without a glyph are written by number.
-/

namespace HostBridge.Text

/-- The form of a character inside quotes. -/
def quoteChar (c : Char) : List Char :=
  match c with
  | '"' => ['\\', '"']
  | '\\' => ['\\', '\\']
  | '\n' => ['\\', 'n']
  | '\r' => ['\\', 'r']
  | '\t' => ['\\', 't']
  | '\x00' => ['\\', '0']
  | c => if isUnprintable c then ['\\', 'u', '\x7b'] ++ hex c.toNat ++ ['\x7d'] else [c]

/-- A string in quotes. -/
def quoted (s : String) : String :=
  String.ofList ('"' :: s.toList.flatMap quoteChar ++ ['"'])

end HostBridge.Text
