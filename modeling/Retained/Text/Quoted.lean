import Retained.Text.Printable

/-!
# Quoted text

A text between quotation marks, for messages. Inside, a quotation mark and a backslash follow a
backslash, four control characters have a letter, and other characters that do not show are
spelled by their number.
-/

namespace Retained.Text

/-- A character as it stands in a quotation. -/
def quoteChar (c : Char) : List Char :=
  match c with
  | '"' => ['\\', '"']
  | '\\' => ['\\', '\\']
  | '\n' => ['\\', 'n']
  | '\r' => ['\\', 'r']
  | '\t' => ['\\', 't']
  | '\x00' => ['\\', '0']
  | c =>
    if isPrintable c then [c]
    else ['\\', 'u', '\x7b'] ++ Nat.toDigits 16 c.toNat ++ ['\x7d']

def quoted (s : String) : String := .ofList ('"' :: s.toList.flatMap quoteChar ++ ['"'])

end Retained.Text
