import DocQuery.Text.Class

/-!
Texts in double quotes, as they stand in the outline of an expression: quotes and backslashes are
escaped, and characters that cannot be seen are written by their code point.
-/

namespace DocQuery.Text

def quotedChar (c : Char) : String :=
  if c = '"' then "\\\""
  else if c = '\\' then "\\\\"
  else if c = '\n' then "\\n"
  else if c = '\r' then "\\r"
  else if c = '\t' then "\\t"
  else if c = '\x00' then "\\0"
  else if extendsPrevious c || !isPrintable c then
    "\\u\x7b" ++ String.ofList (Nat.toDigits 16 c.toNat) ++ "\x7d"
  else String.singleton c

def quoted (text : String) : String :=
  "\"" ++ String.join (text.toList.map quotedChar) ++ "\""

end DocQuery.Text
