import NodeAudit.Decimal.Digits
import NodeAudit.Text.Escaped

/-!
# Quoted text

A text in double quotes, as it stands in messages and in the display of a value: quotes and
backslashes are escaped, the common controls have a letter, and other characters that would not
show are written by their code point in braces.
-/

namespace NodeAudit.Text

/-- How one character stands inside the quotes. -/
def quotedChar (c : Char) : String :=
  match c with
  | '"' => "\\\""
  | '\\' => "\\\\"
  | '\t' => "\\t"
  | '\n' => "\\n"
  | '\r' => "\\r"
  | '\x00' => "\\0"
  | c =>
    if isEscaped c then "\\u\x7b" ++ Decimal.hexOfNat c.toNat ++ "\x7d"
    else String.singleton c

/-- The text in double quotes. -/
def quoted (s : String) : String :=
  "\"" ++ String.join (s.toList.map quotedChar) ++ "\""

end NodeAudit.Text
