import Checksum.Bytes

/-!
# Plain text

A text may hold control sequences, which a terminal obeys and does not show. The plain text is what
is left without them, and without the controls that are no white space.

An escape character begins a sequence, whatever came before. Of the sequences most are over after
one final character; a command string and the other strings go on to a terminator of their own.
A tab or a line end does not end a sequence, and yet it is shown, unless it is inside a string. What
comes behind it is shown as well, up to the next control, which belongs to the sequence again.
-/

namespace Checksum.Text

/-- What a terminal is in the middle of. -/
inductive Control where
  | idle
  | escape
  | escapeIntermediate
  | sequence
  | parameters
  | intermediate
  | malformed
  | device
  | deviceParameters
  | deviceIntermediate
  | command
  | string
  deriving DecidableEq, Repr

namespace Control

def within (first last : Nat) (c : Char) : Bool := first ≤ c.toNat && c.toNat ≤ last

def isIntermediate : Char → Bool := within 0x20 0x2f

def isParameter : Char → Bool := within 0x30 0x3b

def isPrivate : Char → Bool := within 0x3c 0x3f

def isFinal : Char → Bool := within 0x40 0x7e

/-- A byte of this value ends a string, also inside a character. -/
def terminator : UInt8 := 0x9c

/-- The controls that are white space. -/
def isSpacing (c : Char) : Bool := ['\t', '\n', '\x0c', '\r'].contains c

/-- What comes after an escape character. -/
def introduced (c : Char) : Control :=
  match c with
  | '[' => sequence
  | ']' => command
  | 'P' => device
  | 'X' | '^' | '_' => string
  | c => if isIntermediate c then escapeIntermediate else if within 0x30 0x7e c then idle else escape

def next (s : Control) (c : Char) : Control :=
  if c = '\x1b' then escape
  else if c = '\x18' || c = '\x1a' then idle
  else
    match s with
    | idle => idle
    | escape => introduced c
    | escapeIntermediate => if within 0x30 0x7e c then idle else s
    | sequence =>
        if isFinal c then idle
        else if isIntermediate c then intermediate
        else if isParameter c || isPrivate c then parameters
        else s
    | parameters =>
        if isFinal c then idle
        else if isIntermediate c then intermediate
        else if isPrivate c then malformed
        else s
    | intermediate =>
        if isFinal c then idle
        else if isParameter c || isPrivate c then malformed
        else s
    | malformed => if isFinal c then idle else s
    | device =>
        if isFinal c then string
        else if isIntermediate c then deviceIntermediate
        else if isParameter c || isPrivate c then deviceParameters
        else s
    | deviceParameters =>
        if isFinal c || isPrivate c then string
        else if isIntermediate c then deviceIntermediate
        else s
    | deviceIntermediate =>
        if isFinal c || isParameter c || isPrivate c then string else s
    | command => if c = '\x07' then idle else s
    | string => if (Bytes.ofText (String.singleton c)).contains terminator then idle else s

/-- Whether a character is shown in the middle of this. -/
def shows (s : Control) (c : Char) : Bool :=
  match s with
  | idle => within 0x20 0x7e c || 0x80 ≤ c.toNat || isSpacing c
  | escape | escapeIntermediate | sequence | parameters | intermediate | malformed => isSpacing c
  | _ => false

/-- What is shown from here on; `showing` tells whether the character in front of it was. -/
def visible (s : Control) (showing : Bool) : List Char → List Char
  | [] => []
  | c :: cs =>
      if showing && shows idle c then
        c :: visible (if 0x80 ≤ c.toNat then idle else s) true cs
      else if s.shows c then c :: visible s true cs
      else visible (s.next c) false cs

end Control

def plain (s : String) : String := String.ofList (Control.idle.visible false s.toList)

end Checksum.Text
