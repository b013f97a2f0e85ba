import ProfileGateway.Text.Hex
import ProfileGateway.Text.Printable
/-!
# Quoted text

A text inside double quotes, as messages show what they were given: a quote and a backslash are escaped, the
common control characters have short names, and every other character that does not print is named by its
number in lower-case hexadecimal.
-/
namespace ProfileGateway.Text

/-- One character as it stands inside quotes. -/
def quotedChar (c : Char) : List Char :=
  match c with
  | '"' => ['\\', '"']
  | '\\' => ['\\', '\\']
  | '\n' => ['\\', 'n']
  | '\r' => ['\\', 'r']
  | '\t' => ['\\', 't']
  | '\x00' => ['\\', '0']
  | c => if isPrintable c then [c] else ['\\', 'u', '\x7b'] ++ hexNumeral c.toNat ++ ['\x7d']

def quoted (s : String) : String :=
  String.ofList ('"' :: s.toList.flatMap quotedChar ++ ['"'])

end ProfileGateway.Text
