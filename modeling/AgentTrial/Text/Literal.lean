/-!
# Literal — user text inside a generated program

A string literal is double-quoted and reads the same as a program string and as a JSON string.  Inside a comment every
character that could end the line becomes a space.
-/

namespace AgentTrial.Text

/-- The lower-case hexadecimal digit of a number below sixteen. -/
def hexDigit (n : Nat) : Char := if n < 10 then Char.ofNat (48 + n) else Char.ofNat (87 + n)

/-- A code point below 65536 as `\u` and four digits. -/
def unicodeEscape (n : Nat) : List Char :=
  ['\\', 'u', hexDigit (n / 4096 % 16), hexDigit (n / 256 % 16), hexDigit (n / 16 % 16), hexDigit (n % 16)]

/-- The written form of one character inside a literal. -/
def escapeChar (c : Char) : List Char :=
  if c = '\\' then ['\\', '\\']
  else if c = '"' then ['\\', '"']
  else if c = '\n' then ['\\', 'n']
  else if c = '\r' then ['\\', 'r']
  else if c = '\t' then ['\\', 't']
  else if c.toNat < 0x20 || c.toNat == 0x7F || c.toNat == 0x2028 || c.toNat == 0x2029 then unicodeEscape c.toNat
  else [c]

/-- The literal of a list of characters. -/
def literalChars (s : List Char) : List Char := '"' :: s.flatMap escapeChar ++ ['"']

/-- The string literal that stands for a text. -/
def literal (s : String) : String := .ofList (literalChars s.toList)

/-- A control character: the C0 range, DEL and the C1 range. -/
def isControl (c : Char) : Bool := c.toNat < 0x20 || (0x7F ≤ c.toNat && c.toNat < 0xA0)

/-- A character as it stands in a line comment. -/
def commentChar (c : Char) : Char :=
  if isControl c || c.toNat == 0x2028 || c.toNat == 0x2029 then ' ' else c

/-- The text as it stands in a line comment. -/
def comment (s : String) : String := .ofList (s.toList.map commentChar)

end AgentTrial.Text
