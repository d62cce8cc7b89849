import Checksum.Text.Alphanumeric
import Checksum.Text.Blank

/-!
# Patterns

A pattern describes a set of texts: characters, sets of characters between square brackets, groups
between parentheses, alternatives, and the repetitions `?`, `*` and `+` of what stands in front of
them. Here it is told which texts are patterns.

The characters of a pattern are read one after another. What has been read decides what may come
next: a repetition needs something to repeat, a range needs a character on both sides, and groups
and sets are closed in the order in which they were opened. A pattern must not be nested too deep.
Patterns range over all of Unicode, yet no table of it is at hand, so whatever would need one is no
pattern: letters of either case, and the classes of digits, blanks and word characters outside the
mode that is restricted to ASCII. In that mode, whatever would match less than a character is none.
-/

namespace Checksum.Log.Pattern

/-- What the flags of a group have switched on. -/
structure Flags where
  anyCase : Bool
  unicode : Bool
  spaced : Bool
  deriving DecidableEq, Repr

/-- What an escape or a single character stands for. -/
inductive Atom where
  | char (code : Nat)
  | charClass
  | boundary
  deriving DecidableEq, Repr

/-- Where an atom stands: by itself, in a set, or in a set as the end of a range. -/
inductive Place where
  | item
  | member
  | last (first : Option Nat)
  deriving DecidableEq, Repr

/-- What the character that comes next belongs to. -/
inductive Mode where
  | item
  | opened
  | asked
  | askedName
  | name (read : List Char)
  | flags (read : List Char)
  | escape (place : Place)
  | hex (place : Place) (size left value : Nat)
  | set (mayNegate mayClose : Bool)
  | member
  | behind (first : Option Nat)
  | range (first : Option Nat)
  deriving DecidableEq, Repr

/-- Whether blanks are passed over in the spaced form of patterns. -/
def Mode.passesBlanks : Mode → Bool
  | asked | askedName | name _ | flags _ | escape _ => false
  | _ => true

/-! ### Depth

Of every part it is known how deep it is nested. A character, an escape, a range or a class has the
depth zero; a repetition, a group and a set are one deeper than what is in them. -/

/-- The greatest depth of a pattern. -/
def maxDepth : Nat := 250

/-- The depth of parts side by side, which are one deeper together than the deepest of them. -/
def sideBySide : List Nat → Nat
  | [] => 0
  | [depth] => depth
  | depths => depths.foldl max 0 + 1

/-- A group that is open, or the whole pattern. -/
structure Group where
  flags : Flags
  /-- The depths of the alternatives that are complete. -/
  alternatives : List Nat
  /-- The depths of the items of the next alternative, the last item first. -/
  items : List Nat
  deriving DecidableEq, Repr

def Group.depth (g : Group) : Nat := sideBySide (sideBySide g.items :: g.alternatives)

/-- A set that is open. -/
structure OpenSet where
  /-- The depth of what is in front of the last operator. -/
  operand : Option Nat
  /-- The depths of the members behind it. -/
  members : List Nat
  deriving DecidableEq, Repr

def OpenSet.depth (s : OpenSet) : Nat :=
  match s.operand with
  | none => sideBySide s.members
  | some operand => max operand (sideBySide s.members) + 1

/-! ### Names and classes -/

def hexValue? (c : Char) : Option Nat :=
  if c.isDigit then some (c.toNat - '0'.toNat)
  else if 'a' ≤ c ∧ c ≤ 'f' then some (c.toNat - 'a'.toNat + 10)
  else if 'A' ≤ c ∧ c ≤ 'F' then some (c.toNat - 'A'.toNat + 10)
  else none

/-- The letters that stand for a control behind a backslash. -/
def controls : List (Char × Nat) :=
  [('a', 0x7), ('f', 0xc), ('n', 0xa), ('r', 0xd), ('t', 0x9), ('v', 0xb)]

def flagLetters : List Char := ['i', 'm', 's', 'U', 'u', 'R', 'x']

/-- The classes of ASCII characters that a set can name between `[:` and `:]`. -/
def classNames : List String :=
  ["alnum", "alpha", "ascii", "blank", "cntrl", "digit", "graph", "lower", "print", "punct", "space",
    "upper", "word", "xdigit"]

/-- Whether a named class begins behind a bracket: if it is negated, and how long the rest of it is. -/
def namedClass? (rest : List Char) : Option (Bool × Nat) :=
  match rest with
  | ':' :: rest =>
      let negated := rest.head? == some '^'
      let rest := if negated then rest.drop 1 else rest
      let name := rest.takeWhile (· != ':')
      if (rest.drop name.length).take 2 == [':', ']'] && classNames.any (·.toList == name) then
        some (negated, name.length + if negated then 4 else 3)
      else none
  | _ => none

def isNameChar (first : Bool) (c : Char) : Bool :=
  if first then c == '_' || Text.isAlphabetic c
  else Text.isAlphanumeric c || ['_', '.', '[', ']'].contains c

/-- Switches flags on, and those behind a minus sign off. -/
def Flags.set (flags : Flags) (read : List Char) : Flags :=
  let on := read.takeWhile (· != '-')
  let off := read.dropWhile (· != '-')
  let switch := fun (c : Char) (before : Bool) => (before || on.contains c) && !off.contains c
  ⟨switch 'i' flags.anyCase, switch 'u' flags.unicode, switch 'x' flags.spaced⟩

/-- The character behind a minus sign. In the spaced form this is the first that is no blank; of a
comment, the first behind the number sign. -/
def Flags.lookAhead (flags : Flags) (rest : List Char) : Option Char :=
  if flags.spaced then
    match rest.dropWhile Text.isBlank with
    | '#' :: comment => (comment.dropWhile Text.isBlank).head?
    | rest => rest.head?
  else rest.head?

/-! ### Reading -/

structure Reading where
  mode : Mode
  group : Group
  /-- The groups around this one, the innermost first. -/
  outer : List Group
  /-- The open sets, the innermost first. -/
  sets : List OpenSet
  names : List (List Char)
  /-- Whether there is something that a repetition can repeat. -/
  repeatable : Bool
  /-- How many characters have been taken together with one in front of them. -/
  skip : Nat
  inComment : Bool
  deriving DecidableEq, Repr

namespace Reading

def start : Reading :=
  { mode := .item
    group := ⟨⟨false, true, false⟩, [], []⟩
    outer := []
    sets := []
    names := []
    repeatable := false
    skip := 0
    inComment := false }

def flags (r : Reading) : Flags := r.group.flags

/-- Letters of either case would need a table of them. -/
def lacksCaseTable (r : Reading) : Bool := r.flags.anyCase && r.flags.unicode

/-- Outside Unicode a set has only members of ASCII. -/
def admits (r : Reading) (code : Nat) : Bool := r.flags.unicode || code < 0x80

def goOn (r : Reading) (mode : Mode) : Option Reading := some { r with mode }

/-- Adds an item that can be repeated. -/
def addItem (r : Reading) (depth : Nat) : Option Reading :=
  some { r with
    mode := .item
    repeatable := true
    group := { r.group with items := depth :: r.group.items } }

/-- Repeats the last item; a second question mark belongs to the repetition. -/
def repeatItem (r : Reading) (rest : List Char) : Option Reading :=
  match r.repeatable, r.group.items with
  | true, depth :: items =>
      some { r with
        group := { r.group with items := (depth + 1) :: items }
        skip := if rest.head? == some '?' then 1 else 0 }
  | _, _ => none

def beginAlternative (r : Reading) : Option Reading :=
  some { r with
    repeatable := false
    group := ⟨r.flags, sideBySide r.group.items :: r.group.alternatives, []⟩ }

def pushGroup (r : Reading) (flags : Flags) (names : List (List Char)) : Reading :=
  { r with mode := .item, repeatable := false, names, group := ⟨flags, [], []⟩, outer := r.group :: r.outer }

def popGroup (r : Reading) : Option Reading :=
  match r.outer with
  | [] => none
  | group :: outer => ({ r with group, outer } : Reading).addItem (r.group.depth + 1)

/-- Flags without a group hold for the rest of the group that they are in. They are an item of it
that cannot be repeated. -/
def setFlags (r : Reading) (flags : Flags) : Option Reading :=
  some { r with
    mode := .item
    repeatable := false
    group := ⟨flags, r.group.alternatives, 0 :: r.group.items⟩ }

def pushSet (r : Reading) : Option Reading :=
  some { r with mode := .set true true, sets := ⟨none, []⟩ :: r.sets }

def popSet (r : Reading) : Option Reading :=
  match r.sets with
  | [] => none
  | [set] => ({ r with sets := [] } : Reading).addItem (set.depth + 1)
  | set :: around :: sets =>
      some { r with
        mode := .member
        sets := { around with members := (set.depth + 1) :: around.members } :: sets }

def addMember (r : Reading) (mode : Mode) : Option Reading :=
  match r.sets with
  | [] => none
  | set :: sets =>
      if r.lacksCaseTable then none
      else some { r with mode, sets := { set with members := 0 :: set.members } :: sets }

/-- An operator between the members in front of it and those behind it takes two characters. -/
def addOperator (r : Reading) : Option Reading :=
  match r.sets with
  | [] => none
  | set :: sets => some { r with mode := .member, skip := 1, sets := ⟨some set.depth, []⟩ :: sets }

/-- A range runs upwards from one character to another. -/
def takeAtom (r : Reading) (place : Place) (a : Atom) : Option Reading :=
  match place, a with
  | .item, .char _ => if r.lacksCaseTable then none else r.addItem 0
  | .item, _ => r.addItem 0
  | .member, .char code => if r.admits code then r.addMember (.behind (some code)) else none
  | .member, .charClass => r.addMember (.behind none)
  | .last (some first), .char code => if r.admits code && first ≤ code then r.goOn .member else none
  | _, _ => none

def takeEscaped (r : Reading) (place : Place) (c : Char) : Option Reading :=
  match controls.find? (·.1 == c) with
  | some control => r.takeAtom place (.char control.2)
  | none =>
      if c = 'x' then r.goOn (.hex place 2 2 0)
      else if c = 'u' then r.goOn (.hex place 4 4 0)
      else if c = 'U' then r.goOn (.hex place 8 8 0)
      else if ['d', 's', 'w'].contains c then
        if r.flags.unicode then none else r.takeAtom place .charClass
      else if ['b', 'B', '<', '>'].contains c then
        if r.flags.unicode then none else r.takeAtom place .boundary
      else if ['A', 'z'].contains c then r.takeAtom place .boundary
      else if c.isAlphanum || 0x80 ≤ c.toNat then none
      else r.takeAtom place (.char c.toNat)

/-- The digits of a code point, which must be that of a character; two digits outside Unicode are
those of a byte, which must be a character by itself. -/
def takeHex (r : Reading) (place : Place) (size left value : Nat) (c : Char) : Option Reading :=
  (hexValue? c).bind fun digit =>
    let value := 16 * value + digit
    if 1 < left then r.goOn (.hex place size (left - 1) value)
    else if value.isValidChar ∧ (size ≠ 2 ∨ r.admits value) then r.takeAtom place (.char value)
    else none

def takeItem (r : Reading) (c : Char) (rest : List Char) : Option Reading :=
  match c with
  | '(' => r.goOn .opened
  | ')' => r.popGroup
  | '|' => r.beginAlternative
  | '[' => r.pushSet
  | '?' | '*' | '+' => r.repeatItem rest
  | '\x7b' => none
  | '\\' => r.goOn (.escape .item)
  | '.' => if r.flags.unicode then r.addItem 0 else none
  | '^' | '$' => r.addItem 0
  | c => r.takeAtom .item (.char c.toNat)

def takeName (r : Reading) (read : List Char) (c : Char) : Option Reading :=
  if c = '>' then
    if read.isEmpty || r.names.contains read then none
    else some (r.pushGroup r.flags (read :: r.names))
  else if isNameChar read.isEmpty c then r.goOn (.name (read ++ [c]))
  else none

/-- Flags for the rest of the group, or for the group that a colon opens. -/
def takeFlag (r : Reading) (read : List Char) (c : Char) : Option Reading :=
  if c = ')' then
    if read.isEmpty || read.getLast? == some '-' then none else r.setFlags (r.flags.set read)
  else if c = ':' then
    if read.getLast? == some '-' then none else some (r.pushGroup (r.flags.set read) r.names)
  else if (c = '-' || flagLetters.contains c) && !read.contains c then r.goOn (.flags (read ++ [c]))
  else none

def takeMember (r : Reading) (c : Char) (rest : List Char) : Option Reading :=
  match c with
  | '[' =>
      match namedClass? rest with
      | some (negated, length) =>
          if negated && !r.flags.unicode then none
          else ({ r with skip := length } : Reading).addMember .member
      | none => r.pushSet
  | ']' => r.popSet
  | '\\' => r.goOn (.escape .member)
  | c =>
      if ['&', '-', '~'].contains c && rest.head? == some c then r.addOperator
      else r.takeAtom .member (.char c.toNat)

/-- The beginning of a set: a circumflex negates it, and minus signs or one closing bracket in front
of the other members stand for themselves. -/
def takeFirst (r : Reading) (mayNegate mayClose : Bool) (c : Char) (rest : List Char) : Option Reading :=
  if c = '^' && mayNegate then if r.flags.unicode then r.goOn (.set false true) else none
  else if c = '-' then r.addMember (.set false false)
  else if c = ']' && mayClose then r.addMember .member
  else r.takeMember c rest

/-- A minus sign behind a member makes a range of it, but not at the end of the set or in front of
another one. -/
def takeBehind (r : Reading) (first : Option Nat) (c : Char) (rest : List Char) : Option Reading :=
  let ahead := r.flags.lookAhead rest
  if c = '-' && ahead != some ']' && ahead != some '-' then r.goOn (.range first)
  else r.takeMember c rest

def takeLast (r : Reading) (first : Option Nat) (c : Char) : Option Reading :=
  if c = '\\' then r.goOn (.escape (.last first)) else r.takeAtom (.last first) (.char c.toNat)

def takeInMode (r : Reading) (c : Char) (rest : List Char) : Option Reading :=
  match r.mode with
  | .item => r.takeItem c rest
  | .opened => if c = '?' then r.goOn .asked else (r.pushGroup r.flags r.names).takeItem c rest
  | .asked =>
      if c = 'P' then r.goOn .askedName
      else if c = '<' then r.goOn (.name [])
      else r.takeFlag [] c
  | .askedName => if c = '<' then r.goOn (.name []) else none
  | .name read => r.takeName read c
  | .flags read => r.takeFlag read c
  | .escape place => r.takeEscaped place c
  | .hex place size left value => r.takeHex place size left value c
  | .set mayNegate mayClose => r.takeFirst mayNegate mayClose c rest
  | .member => r.takeMember c rest
  | .behind first => r.takeBehind first c rest
  | .range first => r.takeLast first c

/-- Takes one character in front of others. In the spaced form, blanks are passed over, and comments
from a number sign to the end of the line. -/
def take (r : Reading) (c : Char) (rest : List Char) : Option Reading :=
  if 0 < r.skip then some { r with skip := r.skip - 1 }
  else if r.inComment then some { r with inComment := c != '\n' }
  else if r.flags.spaced && r.mode.passesBlanks && (Text.isBlank c || c == '#') then
    some { r with inComment := c == '#' }
  else r.takeInMode c rest

def takeAll (r : Reading) : List Char → Option Reading
  | [] => some r
  | c :: cs => (r.take c cs).bind (·.takeAll cs)

def isComplete (r : Reading) : Bool :=
  r.mode == .item && r.outer.isEmpty && r.group.depth ≤ maxDepth

end Reading

def isPattern (cs : List Char) : Bool := (Reading.start.takeAll cs).any (·.isComplete)

end Checksum.Log.Pattern
