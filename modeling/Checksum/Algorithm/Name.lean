import Checksum.Algorithm
import Checksum.Text.Blank

/-!
# Reading the name of an algorithm

Three steps in a fixed order: trim white space, lower the ASCII letters, drop the separators. As the
trimming comes first, a separator beyond inner white space leaves that white space in the name, and
no algorithm has such a name.
-/

namespace Checksum.Algorithm

def isSeparator (c : Char) : Bool := c == '-' || c == '_'

/-- What is left of a name once the tolerated differences are removed. -/
def normalForm (name : String) : List Char :=
  ((Text.trim name.toList).map Char.toLower).filter (!isSeparator ·)

def ofName? (name : String) : Option Algorithm :=
  all.find? fun a => a.key.toList == normalForm name

end Checksum.Algorithm
