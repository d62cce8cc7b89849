import Checksum.Bytes
import Checksum.Text.Blank

/-!
# Flags

A flag is switched on or off by one of four words each, in any mixture of ASCII case and with any
white space around it. A flag taken from the environment is on only if its value says so: an unset
variable, ill-formed UTF-8 and every other word leave it off.
-/

namespace Checksum.Flag

def onWords : List String := ["1", "on", "true", "yes"]

def offWords : List String := ["0", "off", "false", "no"]

def parse (text : String) : Option Bool :=
  let word := String.ofList ((Text.trim text.toList).map Char.toLower)
  if word ∈ onWords then some true
  else if word ∈ offWords then some false
  else none

/-- The flag of an environment variable with this value, if it has one. -/
def isSet (value : Option Bytes) : Bool :=
  match value.bind Bytes.toText? with
  | some text => parse text == some true
  | none => false

end Checksum.Flag
