/-
Quoted text: how a name is shown inside a message.

Quotes stand around it; a quote or a backslash inside gets a backslash, the common controls
get their letter, and every character that would not show as itself gets its code point in
hexadecimal.
-/
import AnnotationLog.Text.Basic
import AnnotationLog.Unicode.Printable

namespace AnnotationLog.Text

/-- One character as it stands between quotes. -/
def quoteChar (c : Char) : Text :=
  match c with
  | '\x00' => ['\\', '0']
  | '\t' => ['\\', 't']
  | '\r' => ['\\', 'r']
  | '\n' => ['\\', 'n']
  | '\\' => ['\\', '\\']
  | '"' => ['\\', '"']
  | c =>
    if Unicode.isPrintable c then [c]
    else ['\\', 'u', '{'] ++ Nat.toDigits 16 c.toNat ++ ['}']

/-- A text between quotes. -/
def quote (t : Text) : Text :=
  '"' :: t.flatMap quoteChar ++ ['"']

/-- A list of texts, each between quotes, in square brackets. -/
def quoteList (ts : List Text) : Text :=
  '[' :: join [',', ' '] (ts.map quote) ++ [']']

end AnnotationLog.Text
