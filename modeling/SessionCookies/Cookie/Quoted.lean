/-!
# Quoted cookie values

A cookie value that holds nothing but token characters is written as it is. Any other is put between
quotes: a quote and a backslash are escaped by a backslash, and control characters, the comma, the
semicolon and the characters from U+007F to U+00FF by a backslash and three octal digits. The reader
takes the escape off again, and leaves a value without quotes alone.
-/

namespace SessionCookies.Cookie

/-! ### Characters -/

/-- The characters of cookie names and of values without quotes. -/
def isTokenChar (c : Char) : Bool := c.isAlphanum || "!#$%&'*+-.^_`|~:".toList.contains c

/-- The characters that stand for themselves between quotes. -/
def isPlainChar (c : Char) : Bool :=
  isTokenChar c || " ()/<=>?@[]\x7b\x7d".toList.contains c

def octalDigit (n : Nat) : Char := Char.ofNat (n % 8 + 48)

/-- The number that an octal digit stands for. -/
def octalValue? (c : Char) : Option Nat := if '0' ≤ c ∧ c ≤ '7' then some (c.toNat - 48) else none

/-- A character as it is written between quotes. -/
def writeChar (c : Char) : List Char :=
  if isPlainChar c then [c]
  else if c = '"' ∨ c = '\\' then ['\\', c]
  else if c.toNat < 256 then
    ['\\', octalDigit (c.toNat / 64), octalDigit (c.toNat / 8), octalDigit c.toNat]
  else [c]

/-- Whether a text is a token: at least one character, and none but token characters. -/
def isToken (cs : List Char) : Bool := !cs.isEmpty && cs.all isTokenChar

/-- The written form of a value. -/
def encode (cs : List Char) : List Char :=
  if isToken cs then cs else '"' :: cs.flatMap writeChar ++ ['"']

/-! ### Reading -/

/-- The character that three octal digits stand for, of which the first is at most 3. -/
def octalChar? (a b c : Char) : Option Char := do
  let a ← octalValue? a
  let b ← octalValue? b
  let c ← octalValue? c
  if a < 4 then return Char.ofNat (a * 64 + b * 8 + c) else none

/-- Takes the escapes off. A backslash before a line feed or at the end stands for itself. -/
def unescape : List Char → List Char
  | [] => []
  | '\\' :: a :: b :: c :: rest =>
    match octalChar? a b c with
    | some d => d :: unescape rest
    | none =>
      if a = '\n' then '\\' :: a :: unescape (b :: c :: rest)
      else a :: unescape (b :: c :: rest)
  | '\\' :: a :: rest => if a = '\n' then '\\' :: a :: unescape rest else a :: unescape rest
  | c :: rest => c :: unescape rest

/-- The value that a written form stands for. -/
def decode (cs : List Char) : List Char :=
  match cs with
  | '"' :: rest =>
    match rest.reverse with
    | '"' :: inner => unescape inner.reverse
    | _ => cs
  | _ => cs

end SessionCookies.Cookie
