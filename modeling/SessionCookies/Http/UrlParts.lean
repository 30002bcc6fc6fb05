import SessionCookies.Http.Address

/-!
# The parts of a URL

A URL taken apart into scheme, authority, path, query and fragment, each of which may be missing.
Control characters and blanks in front of it do not count, nor do tabs and line breaks anywhere. An
authority with a broken address between its brackets, or with a character that stands for one of the
delimiters, spoils the URL.
-/

namespace SessionCookies

structure UrlParts where
  scheme : List Char
  authority : List Char
  path : List Char
  query : List Char
  fragment : List Char
  deriving DecidableEq, Repr, Inhabited

namespace UrlParts

/-- What stands before the first place where a character satisfies `p`, and what stands from there
on. -/
def cutAt (p : Char → Bool) (cs : List Char) : List Char × List Char :=
  (cs.takeWhile fun c => !p c, cs.dropWhile fun c => !p c)

/-- The characters that vanish when a URL is taken apart. -/
def isDropped (c : Char) : Bool := c = '\t' || c = '\r' || c = '\n'

/-- The characters that count. -/
def significant (cs : List Char) : List Char :=
  (cs.dropWhile fun c => c.toNat ≤ 0x20).filter fun c => !isDropped c

/-! ### Scheme -/

def isSchemeChar (c : Char) : Bool := c.isAlphanum || c = '+' || c = '-' || c = '.'

/-- The scheme in lower case and what follows its colon, if there is one. -/
def takeScheme (cs : List Char) : List Char × List Char :=
  match Split.atFirst? ':' cs with
  | some (name, rest) =>
    if (name.head?.any Char.isAlpha) && name.all isSchemeChar then (name.map Char.toLower, rest)
    else ([], cs)
  | none => ([], cs)

/-! ### Authority -/

/-- The characters outside ASCII that stand for a text with a delimiter. -/
def disguised : List Nat := [
  0x2047, 0x2048, 0x2049, 0x2100, 0x2101, 0x2105, 0x2106, 0x2A74, 0xFE13, 0xFE16, 0xFE55, 0xFE56,
  0xFE5F, 0xFE6B, 0xFF03, 0xFF0F, 0xFF1A, 0xFF1F, 0xFF20]

/-- The authority without the user in front. -/
def hostAndPort (authority : List Char) : List Char :=
  (authority.reverse.takeWhile (· ≠ '@')).reverse

/-- Whether an authority has no brackets, or an address between brackets as its host. -/
def hasSoundBrackets (authority : List Char) : Bool :=
  if authority.contains '[' && authority.contains ']' then
    match cutAt (· = '[') (hostAndPort authority) with
    | (before, _ :: rest) =>
      let (address, rest) := cutAt (· = ']') rest
      let port := rest.drop 1
      before.isEmpty && (port.isEmpty || port.head? = some ':') && Address.isBracketed address
    | (before, []) => Address.isBracketed (cutAt (· = ':') before).1
  else !authority.contains '[' && !authority.contains ']'

def isSoundAuthority (authority : List Char) : Bool :=
  hasSoundBrackets authority && authority.all fun c => !disguised.contains c.toNat

/-- The authority behind two slashes, if they are there, and the rest. -/
def takeAuthority : List Char → List Char × List Char
  | '/' :: '/' :: rest => cutAt (fun c => c = '/' || c = '?' || c = '#') rest
  | cs => ([], cs)

/-- What follows the colon behind the host. -/
def portOf (authority : List Char) : List Char :=
  let host := hostAndPort authority
  let host := match cutAt (· = '[') host with
    | (_, _ :: rest) => (cutAt (· = ']') rest).2.drop 1
    | (before, []) => before
  (cutAt (· = ':') host).2.drop 1

/-- Whether a port is left out or is a port number. -/
def isPortNumber (port : List Char) : Bool :=
  port.isEmpty || (Digits.read? port).any (· ≤ 65535)

/-! ### Taking apart -/

/-- The parts of a URL. -/
def ofChars? (cs : List Char) : Option UrlParts :=
  let (scheme, rest) := takeScheme (significant cs)
  let (authority, rest) := takeAuthority rest
  let (rest, fragment) := cutAt (· = '#') rest
  let (path, query) := cutAt (· = '?') rest
  if isSoundAuthority authority then
    some ⟨scheme, authority, path, query.drop 1, fragment.drop 1⟩
  else none

end UrlParts

end SessionCookies
