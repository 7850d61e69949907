import RowPatch.Text.Invisible

/-!
# Quoted text

A text is quoted by putting it between double quotes.  A quote or a backslash inside it, the four
controls that have a letter, and every character that cannot be seen are escaped; all other
characters stand for themselves.
-/

namespace RowPatch

/-- One character inside quotes. -/
def escapeChar (c : Char) : String :=
  if c = '"' then "\\\""
  else if c = '\\' then "\\\\"
  else if c = '\n' then "\\n"
  else if c = '\r' then "\\r"
  else if c = '\t' then "\\t"
  else if c = '\x00' then "\\0"
  else if isInvisible c then "\\u\x7b" ++ String.ofList (Nat.toDigits 16 c.toNat) ++ "\x7d"
  else c.toString

/-- A text between quotes. -/
def quoted (s : String) : String := "\"" ++ String.join (s.toList.map escapeChar) ++ "\""

end RowPatch
