import SessionCookies.Cookie.Quoted
import SessionCookies.Text.Blank
import SessionCookies.Text.Split

/-!
# Cookies of a request

The cookies that a client sends back. Each header is cut at its semicolons and each piece at its
first equals sign; a piece without one is a value without a name. Of several cookies of one name the
last counts.
-/

namespace SessionCookies.Cookie

/-- The name and value of one piece of a header; a blank piece has neither. -/
def ofPiece? (piece : List Char) : Option (List Char × List Char) :=
  let (name, value) := (Split.atFirst? '=' piece).getD ([], piece)
  let name := Blank.strip name
  let value := Blank.strip value
  if name.isEmpty && value.isEmpty then none else some (name, decode value)

/-- The cookies of a header. -/
def ofHeader (header : List Char) : List (List Char × List Char) :=
  (Split.pieces ';' header).filterMap ofPiece?

/-- The value of the cookie of a name, over all cookie headers of a request in order. -/
def lookup? (headers : List String) (name : String) : Option String :=
  ((headers.flatMap fun header => ofHeader header.toList).reverse.lookup name.toList).map
    String.ofList

end SessionCookies.Cookie
