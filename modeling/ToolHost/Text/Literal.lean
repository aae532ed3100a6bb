import ToolHost.Text.Invisible

/-! Texts as a diagnostic shows them: between double quotes, on one line, and with nothing in them
that the eye could miss. -/
namespace ToolHost.Text

/-- A character inside a shown text. -/
def showChar (c : Char) : List Char :=
  match c with
  | '\x00' => ['\\', '0']
  | '\t' => ['\\', 't']
  | '\r' => ['\\', 'r']
  | '\n' => ['\\', 'n']
  | '\\' => ['\\', '\\']
  | '"' => ['\\', '"']
  | c =>
    if isInvisible c then ['\\', 'u', '\x7b'] ++ Nat.toDigits 16 c.toNat ++ ['\x7d'] else [c]

/-- A text between quotes, with backslashes for what would not show. -/
def literal (s : String) : String := String.ofList ('"' :: s.toList.flatMap showChar ++ ['"'])

end ToolHost.Text
