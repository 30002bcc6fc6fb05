import SessionCookies.Json.Printer

/-!
# Compact JSON strings

String literals in which only quotes, backslashes and control characters are escaped, as they stand
in session records and in response bodies.
-/

namespace SessionCookies.Json

/-- A character inside a compact string literal. -/
def compactChar (c : Char) : List Char :=
  if c = '"' then ['\\', '"']
  else if c = '\\' then ['\\', '\\']
  else if c = '\x08' then ['\\', 'b']
  else if c = '\t' then ['\\', 't']
  else if c = '\n' then ['\\', 'n']
  else if c = '\x0c' then ['\\', 'f']
  else if c = '\r' then ['\\', 'r']
  else if c.toNat < 0x20 then
    ['\\', 'u', '0', '0', hexDigit (c.toNat / 16), hexDigit (c.toNat % 16)]
  else [c]

def compactString (s : String) : List Char := '"' :: s.toList.flatMap compactChar ++ ['"']

end SessionCookies.Json
