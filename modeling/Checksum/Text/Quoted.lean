import Checksum.Text.GraphemeExtend
import Checksum.Text.Unprintable

/-!
# Quoted text

A text between double quotes on one line. A quote, a backslash and the four commonest controls are
written as a backslash and a letter, any other character that would not show in a place of its own
as a backslash, `u` and its code point in lower-case hexadecimal between braces, and everything else
as it is.
-/

namespace Checksum.Text

/-- Whether a character stands for itself between quotes, the escaped letters apart. -/
def showsItself (c : Char) : Bool :=
  (' ' ≤ c && c ≤ '~') || !(unprintable.has c || graphemeExtend.has c)

/-- The letter that stands behind a backslash for this character. -/
def escapeLetter? : Char → Option Char
  | '\x00' => some '0'
  | '\t' => some 't'
  | '\r' => some 'r'
  | '\n' => some 'n'
  | '\x22' => some '\x22'
  | '\\' => some '\\'
  | _ => none

def escape (c : Char) : List Char :=
  match escapeLetter? c with
  | some letter => ['\\', letter]
  | none =>
      if showsItself c then [c]
      else ['\\', 'u', '\x7b'] ++ Nat.toDigits 16 c.toNat ++ ['\x7d']

def quote (s : String) : String := String.ofList ('\x22' :: s.toList.flatMap escape ++ ['\x22'])

end Checksum.Text
