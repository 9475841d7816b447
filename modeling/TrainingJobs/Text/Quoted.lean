import TrainingJobs.Text.Printable
import TrainingJobs.Text.Extending

/-!
# Quoted texts in messages

A message shows a text between double quotes. A quote and a backslash take a backslash before
them, a few control characters have a letter of their own, and every other character that cannot
be seen by itself is shown by its code point.
-/

namespace TrainingJobs.Text

/-- A character by its code point, in hexadecimal. -/
def codePoint (c : Char) : String :=
  "\\u\x7b" ++ String.ofList (Nat.toDigits 16 c.toNat) ++ "\x7d"

/-- How a character is written between quotes. -/
def quotedChar (c : Char) : String :=
  if c = '\x00' then "\\0"
  else if c = '\t' then "\\t"
  else if c = '\r' then "\\r"
  else if c = '\n' then "\\n"
  else if c = '\\' then "\\\\"
  else if c = '"' then "\\\""
  else if isExtending c then codePoint c
  else if isPrintable c then String.ofList [c]
  else codePoint c

def quoted (s : String) : String :=
  "\"" ++ String.join (s.toList.map quotedChar) ++ "\""

end TrainingJobs.Text
