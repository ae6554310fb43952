import Laoke.Text.Letter
import Laoke.Text.Number

/-!
# Names of a script

A name starts with a letter or an underscore and goes on with letters, numeric
characters and underscores.  Four words are reserved.
-/

namespace Laoke.Script

/-- Whether a name may start with a character. -/
def isNameStart (c : Char) : Bool :=
  Text.isLetter c || c = '_'

/-- Whether a name may go on with a character. -/
def isNamePart (c : Char) : Bool :=
  Text.isLetter c || Text.isNumber c || c = '_'

/-- Whether a text is one name. -/
def isName (cs : List Char) : Bool :=
  match cs with
  | [] => false
  | c :: rest => isNameStart c && rest.all isNamePart

/-- Whether a name is a word of the script language itself. -/
def isReserved (name : String) : Bool :=
  name = "for" || name = "in" || name = "pass" || name = "None"

end Laoke.Script
