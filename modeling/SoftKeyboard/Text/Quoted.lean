import SoftKeyboard.Text.Hidden

/-!
# Texts that show values

`Text.quoted` shows a text between quotes on one line, `Text.printable` shows a text that a terminal
may print, `Text.outline` shows a structure with its fields, and `Text.optional` and `Text.truth`
show a value that may be missing and a truth value.
-/

namespace SoftKeyboard.Text

/-- The lower-case hexadecimal digits of a number. -/
def hexadecimal (n : Nat) : String := String.ofList (Nat.toDigits 16 n)

/-- A character between quotes: quotes, backslashes and hidden characters are escaped. -/
def quotedChar (c : Char) : String :=
  if c = '"' then "\\\""
  else if c = '\\' then "\\\\"
  else if c = '\n' then "\\n"
  else if c = '\t' then "\\t"
  else if c = '\r' then "\\r"
  else if c = '\x00' then "\\0"
  else if isHidden c then "\\u\x7b" ++ hexadecimal c.toNat ++ "\x7d"
  else c.toString

/-- A text between quotes. -/
def quoted (s : String) : String :=
  "\"" ++ String.join (s.toList.map quotedChar) ++ "\""

/-- A character that a terminal may print: the bell, the backspace, the form feed, the escape, the
delete and the controls from `0x80` to `0x9f` are escaped, all other characters stay. -/
def printableChar (c : Char) : String :=
  if c = '\x07' then "\\x07"
  else if c = '\x08' then "\\x08"
  else if c = '\x0c' then "\\x0c"
  else if c = '\x1b' then "\\x1b"
  else if c = '\x7f' then "\\x7f"
  else if 0x80 ≤ c.toNat ∧ c.toNat ≤ 0x9f then "\\u\x7b" ++ hexadecimal c.toNat ++ "\x7d"
  else c.toString

/-- A text that a terminal may print. -/
def printable (s : String) : String := String.join (s.toList.map printableChar)

/-- A truth value. -/
def truth (b : Bool) : String := if b then "true" else "false"

/-- A value that may be missing. -/
def optional : Option String → String
  | none => "None"
  | some text => "Some(" ++ text ++ ")"

/-- A structure with its fields; the mark at the end says that it has more of them. -/
def outline (name : String) (fields : List (String × String)) (more : Bool) : String :=
  let shown := fields.map fun (field, value) => field ++ ": " ++ value
  let shown := if more then shown ++ [".."] else shown
  name ++ " \x7b " ++ ", ".intercalate shown ++ " \x7d"

/-- A text filled up with spaces on the right to a least length. -/
def padded (width : Nat) (s : String) : String :=
  s.pushn ' ' (width - s.length)

end SoftKeyboard.Text
