/-!
# Quoted text

A text inside a log record stands in double quotes, on one line and with no raw control character
in it.

## Main definitions

* `quotedChar` — how one character is written between the quotes
* `quoted` — the text in quotes
-/

namespace Formula

/-- One character between quotes.  The quote and the backslash take a backslash; tab, line feed,
carriage return and the null character have short names; any other control character is written by
its number in hexadecimal, in lower case and without leading zeros. -/
def quotedChar (c : Char) : List Char :=
  if c = '"' then ['\\', '"']
  else if c = '\\' then ['\\', '\\']
  else if c = '\t' then ['\\', 't']
  else if c = '\n' then ['\\', 'n']
  else if c = '\r' then ['\\', 'r']
  else if c.toNat = 0 then ['\\', '0']
  else if c.toNat < 0x20 ∨ c.toNat = 0x7F then
    ['\\', 'u', '\x7b'] ++ Nat.toDigits 16 c.toNat ++ ['\x7d']
  else [c]

/-- A text in double quotes, with what could end or break it escaped. -/
def quoted (text : String) : String :=
  "\"" ++ String.ofList (text.toList.flatMap quotedChar) ++ "\""

end Formula
