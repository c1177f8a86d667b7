import Trackpad.Text.Hex
import Trackpad.Text.Unseen

/-!
# Quoted — text between quotation marks

`quoted` puts text between quotation marks. A mark or a backslash inside is escaped, and so is
every character that could not be seen, by a short escape where there is one and by its code point
otherwise.
-/

namespace Trackpad.Text

/-- How one character stands between quotation marks. -/
def quotedChar (c : Char) : String :=
  if c = '"' then "\\\""
  else if c = '\\' then "\\\\"
  else if c = '\n' then "\\n"
  else if c = '\r' then "\\r"
  else if c = '\t' then "\\t"
  else if c = '\x00' then "\\0"
  else if isUnseen c then "\\u\x7b" ++ hex c.toNat ++ "\x7d"
  else String.singleton c

/-- Text between quotation marks. -/
def quoted (s : String) : String :=
  "\"" ++ String.join (s.toList.map quotedChar) ++ "\""

end Trackpad.Text
