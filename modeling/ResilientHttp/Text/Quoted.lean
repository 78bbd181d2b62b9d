import ResilientHttp.Text.Printable
import ResilientHttp.Text.Integer

/-! Quoted texts, as messages show the names they complain about. -/
namespace ResilientHttp.Text

/-- How one character stands inside quotes: short escapes for the quote, the backslash and the
common controls, the number in braces for what would not show, all else as it is. -/
def quotedChar (c : Char) : String :=
  if c = '"' then "\\\""
  else if c = '\\' then "\\\\"
  else if c = '\n' then "\\n"
  else if c = '\r' then "\\r"
  else if c = '\t' then "\\t"
  else if c.toNat = 0 then "\\0"
  else if extendsGrapheme c || !isPrintable c then "\\u\x7b" ++ hexText c.toNat ++ "\x7d"
  else c.toString

/-- The text in double quotes, with every character that could mislead a reader escaped. -/
def quoted (s : String) : String :=
  "\"" ++ String.join (s.toList.map quotedChar) ++ "\""

def quotedList (ss : List String) : String := "[" ++ ", ".intercalate (ss.map quoted) ++ "]"

end ResilientHttp.Text
