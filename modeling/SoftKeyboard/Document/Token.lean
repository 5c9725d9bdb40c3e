import SoftKeyboard.Document.Numeral

/-!
# Tokens of JSON texts

`Token.scan?` splits a text into tokens, `Token.render` writes one token.  Blanks between tokens are
spaces, tabs, line feeds and carriage returns.  A string token keeps no text when one of its
escapes names half of a surrogate pair.
-/

namespace SoftKeyboard

/-- A token of a JSON text. -/
inductive Token where
  | leftBrace
  | rightBrace
  | leftBracket
  | rightBracket
  | colon
  | comma
  | null
  | bool (value : Bool)
  | number (numeral : Numeral)
  | text (value : Option String)
  deriving DecidableEq, Repr

namespace Token

/-! ### Numbers -/

/-- The digits at the front of a text, and the rest. -/
def digits : List Char → List Digit × List Char
  | [] => ([], [])
  | c :: rest =>
    match Digit.ofChar? c with
    | some d => let (ds, rest) := digits rest; (d :: ds, rest)
    | none => ([], c :: rest)

/-- One digit or more at the front of a text. -/
def digits1? (cs : List Char) : Option (List Digit × List Char) :=
  match digits cs with
  | ([], _) => none
  | result => some result

/-- The digits before the point: a zero stands alone. -/
def whole? : List Char → Option (List Digit × List Char)
  | '0' :: rest => some ([.zero], rest)
  | cs => digits1? cs

/-- The digits after a point, if there is one. -/
def fraction? : List Char → Option (List Digit × List Char)
  | '.' :: rest => digits1? rest
  | cs => some ([], cs)

/-- The sign and digits after an exponent mark, if there is one. -/
def exponent? : List Char → Option (Option (Bool × List Digit) × List Char)
  | c :: rest =>
    if c = 'e' ∨ c = 'E' then
      let (negative, rest) := match rest with
        | '-' :: rest => (true, rest)
        | '+' :: rest => (false, rest)
        | rest => (false, rest)
      (digits1? rest).map fun (ds, rest) => (some (negative, ds), rest)
    else some (none, c :: rest)
  | [] => some (none, [])

/-- A numeral at the front of a text, and the rest. -/
def numeral? (cs : List Char) : Option (Numeral × List Char) := do
  let (negative, cs) := match cs with
    | '-' :: rest => (true, rest)
    | cs => (false, cs)
  let (whole, cs) ← whole? cs
  let (fraction, cs) ← fraction? cs
  let (exponent, cs) ← exponent? cs
  some (⟨negative, whole, fraction, exponent⟩, cs)

/-! ### Strings -/

/-- A piece of a string: a character, or a 16-bit unit given by an escape. -/
inductive Piece where
  | char (c : Char)
  | unit (value : Nat)
  deriving DecidableEq, Repr

/-- The value of a hexadecimal digit. -/
def hexDigit? (c : Char) : Option Nat :=
  if '0' ≤ c ∧ c ≤ '9' then some (c.toNat - 48)
  else if 'a' ≤ c ∧ c ≤ 'f' then some (c.toNat - 87)
  else if 'A' ≤ c ∧ c ≤ 'F' then some (c.toNat - 55)
  else none

/-- The unit of four hexadecimal digits. -/
def unit? (a b c d : Char) : Option Nat := do
  some (4096 * (← hexDigit? a) + 256 * (← hexDigit? b) + 16 * (← hexDigit? c) + (← hexDigit? d))

/-- The character of an escape of one letter. -/
def escape? : Char → Option Char
  | '"' => some '"'
  | '\\' => some '\\'
  | '/' => some '/'
  | 'b' => some '\x08'
  | 'f' => some '\x0c'
  | 'n' => some '\n'
  | 'r' => some '\r'
  | 't' => some '\t'
  | _ => none

/-- The pieces of a string up to its closing quote, and the rest of the text. -/
def pieces? : List Char → Option (List Piece × List Char)
  | [] => none
  | '"' :: rest => some ([], rest)
  | '\\' :: 'u' :: a :: b :: c :: d :: rest => do
    let value ← unit? a b c d
    let (pieces, rest) ← pieces? rest
    some (.unit value :: pieces, rest)
  | '\\' :: letter :: rest => do
    let c ← escape? letter
    let (pieces, rest) ← pieces? rest
    some (.char c :: pieces, rest)
  | c :: rest =>
    if c.toNat < 32 then none
    else do
      let (pieces, rest) ← pieces? rest
      some (.char c :: pieces, rest)

/-- Whether a unit is the first half of a surrogate pair. -/
def isHigh (value : Nat) : Bool := 0xd800 ≤ value && value < 0xdc00

/-- Whether a unit is the second half of a surrogate pair. -/
def isLow (value : Nat) : Bool := 0xdc00 ≤ value && value < 0xe000

/-- The characters of a string; two units that form a surrogate pair make one, and half a pair
alone makes none. -/
def join? : List Piece → Option (List Char)
  | [] => some []
  | .char c :: rest => (join? rest).map (c :: ·)
  | .unit high :: .unit low :: rest =>
    if isHigh high then
      if isLow low then
        (join? rest).map (Char.ofNat (0x10000 + 0x400 * (high - 0xd800) + (low - 0xdc00)) :: ·)
      else none
    else if isLow high then none
    else (join? (.unit low :: rest)).map (Char.ofNat high :: ·)
  | .unit value :: rest =>
    if isHigh value || isLow value then none else (join? rest).map (Char.ofNat value :: ·)

/-! ### Tokens -/

/-- The token at the front of a text that starts with no blank, and the rest. -/
def next? : List Char → Option (Token × List Char)
  | '\x7b' :: rest => some (.leftBrace, rest)
  | '\x7d' :: rest => some (.rightBrace, rest)
  | '[' :: rest => some (.leftBracket, rest)
  | ']' :: rest => some (.rightBracket, rest)
  | ':' :: rest => some (.colon, rest)
  | ',' :: rest => some (.comma, rest)
  | 'n' :: 'u' :: 'l' :: 'l' :: rest => some (.null, rest)
  | 't' :: 'r' :: 'u' :: 'e' :: rest => some (.bool true, rest)
  | 'f' :: 'a' :: 'l' :: 's' :: 'e' :: rest => some (.bool false, rest)
  | '"' :: rest => (pieces? rest).map fun (pieces, rest) =>
    (.text ((join? pieces).map String.ofList), rest)
  | cs => (numeral? cs).map fun (numeral, rest) => (.number numeral, rest)

/-- Whether a character may stand between tokens. -/
def isBlank (c : Char) : Bool := c = ' ' || c = '\t' || c = '\n' || c = '\r'

/-- Splits a text into tokens, in as many steps as it has characters. -/
def scanSteps? : Nat → List Char → Option (List Token)
  | _, [] => some []
  | 0, _ => none
  | steps + 1, c :: rest =>
    if isBlank c then scanSteps? steps rest
    else do
      let (token, rest) ← next? (c :: rest)
      let tokens ← scanSteps? steps rest
      some (token :: tokens)

/-- The tokens of a text. -/
def scan? (cs : List Char) : Option (List Token) := scanSteps? cs.length cs

/-! ### Writing -/

/-- The lower-case hexadecimal digit of a number below 16. -/
def hexChar (n : Nat) : Char := if n < 10 then Char.ofNat (48 + n) else Char.ofNat (87 + n)

/-- A character inside quotes: quotes, backslashes and controls are escaped. -/
def encodeChar (c : Char) : List Char :=
  if c = '"' then ['\\', '"']
  else if c = '\\' then ['\\', '\\']
  else if c = '\x08' then ['\\', 'b']
  else if c = '\t' then ['\\', 't']
  else if c = '\n' then ['\\', 'n']
  else if c = '\x0c' then ['\\', 'f']
  else if c = '\r' then ['\\', 'r']
  else if c.toNat < 32 then
    ['\\', 'u', '0', '0', hexChar (c.toNat / 16), hexChar (c.toNat % 16)]
  else [c]

/-- The characters of a token. -/
def render : Token → List Char
  | .leftBrace => ['\x7b']
  | .rightBrace => ['\x7d']
  | .leftBracket => ['[']
  | .rightBracket => [']']
  | .colon => [':']
  | .comma => [',']
  | .null => ['n', 'u', 'l', 'l']
  | .bool true => ['t', 'r', 'u', 'e']
  | .bool false => ['f', 'a', 'l', 's', 'e']
  | .number numeral => numeral.render
  | .text (some value) => '"' :: (value.toList.flatMap encodeChar ++ ['"'])
  | .text none => ['"', '\\', 'u', 'd', '8', '0', '0', '"']

end Token

end SoftKeyboard
