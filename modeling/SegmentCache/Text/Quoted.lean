import SegmentCache.Text.Hidden

/-!
# Quoted text

Diagnostics show a text between double quotes. Quotes and backslashes are escaped, the common
controls have short forms, and every other character that cannot be shown is written by number.
-/

namespace SegmentCache.Text

/-- How one character is written inside quotes. -/
def quotedChar (c : Char) : String :=
  if c = '"' then "\\\""
  else if c = '\\' then "\\\\"
  else if c = '\n' then "\\n"
  else if c = '\r' then "\\r"
  else if c = '\t' then "\\t"
  else if c = '\x00' then "\\0"
  else if isHidden c then "\\u\x7b" ++ String.ofList (Nat.toDigits 16 c.toNat) ++ "\x7d"
  else c.toString

/-- A text between double quotes. -/
def quoted (s : String) : String :=
  "\"" ++ String.join (s.toList.map quotedChar) ++ "\""

end SegmentCache.Text
