import LinkPlanner.Text.GraphemeExtend
import LinkPlanner.Text.Hex
import LinkPlanner.Text.Printable

/-! Text in quotes, as reports show it: what could be misread or cannot be seen is written as an escape, so
that the quoted text tells exactly which characters it stands for. -/

namespace LinkPlanner.Text

/-- How one character is written between quotes. -/
def quoteChar (c : Char) : List Char :=
  match c with
  | '\x00' => ['\\', '0']
  | '\t' => ['\\', 't']
  | '\n' => ['\\', 'n']
  | '\r' => ['\\', 'r']
  | '"' => ['\\', '"']
  | '\\' => ['\\', '\\']
  | _ =>
    if isPrintable c && !extendsGrapheme c then [c]
    else ['\\', 'u', '\x7b'] ++ hexDigits c.toNat ++ ['\x7d']

/-- The text between double quotes. -/
def quoted (s : String) : String :=
  String.ofList ('"' :: s.toList.flatMap quoteChar ++ ['"'])

/-- The members of a set, as reports list them. -/
def braced (members : List String) : String :=
  "\x7b" ++ ", ".intercalate members ++ "\x7d"

end LinkPlanner.Text
