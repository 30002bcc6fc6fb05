import SessionCookies.Fault
import SessionCookies.Text.Blank
import SessionCookies.Text.Case
import SessionCookies.Text.Numeral
import SessionCookies.Text.Split

/-!
# Environments

The variables that are set when the program starts, and the forms in which their values are read: as
a word, a switch, a list, or an integer.
-/

namespace SessionCookies

/-- The variables that are set, and their values. -/
structure Environment where
  settings : List (String × String) := []

namespace Environment

/-- The value of a variable. -/
def get? (e : Environment) (name : String) : Option String := e.settings.lookup name

/-- The value of a variable, or another text if it is not set. -/
def text (e : Environment) (name default : String) : String := (e.get? name).getD default

/-- The value of a variable that is set to something. -/
def nonempty? (e : Environment) (name : String) : Option String :=
  (e.get? name).filter fun value => !value.isEmpty

/-- A text without the blanks around it, in lower case. -/
def wordOf (text : String) : String := Case.lowerText (Blank.stripText text)

/-- A variable read as a word. -/
def word (e : Environment) (name default : String) : String := wordOf (e.text name default)

/-- A variable read as a switch: four words turn it on, and any other text turns it off. -/
def switch (e : Environment) (name : String) (default : Bool) : Bool :=
  match e.get? name with
  | some value => ["1", "true", "yes", "on"].contains (wordOf value)
  | none => default

/-- A variable read as a list: the pieces between commas that are not blank, without the blanks
around them. -/
def list (e : Environment) (name : String) : List String :=
  let pieces := (Split.pieces ',' (e.text name "").toList).map Blank.strip
  (pieces.filter fun piece => !piece.isEmpty).map String.ofList

/-- A text read as an integer. -/
def integer? (text : String) : Except Fault Int :=
  match Numeral.ofText? text with
  | some n => .ok n
  | none => .error .notAnInteger

end Environment

end SessionCookies
