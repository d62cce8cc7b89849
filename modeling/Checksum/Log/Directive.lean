import Checksum.Bytes
import Checksum.Log.Event
import Checksum.Log.Pattern

/-!
# Directives

A directive is a level, a target, or both with an equals sign between them. Behind the target or in
its place there may be a span between square brackets, and in it a field between braces, with or
without a value: `target[span{field=value}]=level`. The level `trace` is meant where none stands.

Where a part of a directive begins and ends is counted in bytes from its first character that is no
blank, but the part itself is cut out of the directive with the blanks in front. So blanks in
front of a directive move all its parts, and those behind it belong to the last one.
-/

namespace Checksum.Log

/-- The most that passes, as a verbosity; zero lets nothing pass. -/
abbrev Limit := Nat

def limitNames : List (String × Limit) :=
  [("off", 0), ("error", 1), ("warn", 2), ("info", 3), ("debug", 4), ("trace", 5)]

/-- The value of a decimal numeral, which may have a plus sign. -/
def numeralValue? (cs : List Char) : Option Nat :=
  let digits := match cs with
    | '+' :: digits => digits
    | digits => digits
  if !digits.isEmpty && digits.all Char.isDigit then
    some (digits.foldl (fun n c => 10 * n + (c.toNat - '0'.toNat)) 0)
  else none

/-- The limit written as a numeral up to five or, in any case, as its name. -/
def Limit.ofText? (text : String) : Option Limit :=
  match numeralValue? text.toList with
  | some value => if value ≤ 5 then some value else none
  | none => (limitNames.find? fun entry => entry.1.toList == text.toList.map Char.toLower).map (·.2)

/-- A decimal number in positional or scientific form, or the name of one that has none. -/
def isNumber (cs : List Char) : Bool :=
  let whole := cs.takeWhile Char.isDigit
  let behindWhole := cs.dropWhile Char.isDigit
  let (fraction, exponent) := match behindWhole with
    | '.' :: rest => (rest.takeWhile Char.isDigit, rest.dropWhile Char.isDigit)
    | rest => ([], rest)
  let exponentDigits := match exponent with
    | [] => ['0']
    | e :: sign :: digits =>
        if e.toLower != 'e' then []
        else if sign == '+' || sign == '-' then digits else sign :: digits
    | [_] => []
  ["inf", "infinity", "nan"].any (fun name => name.toList == cs.map Char.toLower) ||
    (!(whole ++ fraction).isEmpty && !exponentDigits.isEmpty && exponentDigits.all Char.isDigit)

/-- A value is a pattern, or a number with a plus sign; other numbers and the truth values are
patterns too. -/
def isValue : List Char → Bool
  | '+' :: cs => isNumber cs
  | cs => Pattern.isPattern cs

/-- What a directive asks of a field: that it is there, or also that it has a value. -/
structure FieldTest where
  name : String
  value : Option String
  deriving DecidableEq, Repr

/-- The name before the first equals sign and the value between it and the next. -/
def FieldTest.ofText? (text : String) : Option FieldTest :=
  let name := String.ofList (text.toList.takeWhile (· != '='))
  match text.toList.dropWhile (· != '=') with
  | [] => some ⟨name, none⟩
  | _ :: behind =>
      let value := behind.takeWhile (· != '=')
      if isValue value then some ⟨name, some (String.ofList value)⟩ else none

structure Directive where
  target : Option String
  span : Option String
  field : Option FieldTest
  limit : Limit
  deriving DecidableEq, Repr

namespace Directive

/-- The part of a directive that is being read, and where it began. -/
inductive Part where
  | start
  | word (first : Nat)
  | span (first : Nat)
  | field (first : Nat)
  | fieldClosed
  | spanClosed
  | level (first : Nat)
  deriving DecidableEq, Repr

structure Draft where
  part : Part
  target : Option String
  span : Option String
  field : Option FieldTest
  deriving DecidableEq, Repr

/-- The text between two positions, if they lie between characters. -/
def between? (piece : Bytes) (first behind : Nat) : Option String :=
  Bytes.toText? ((piece.drop first).take (behind - first))

def isWordStart (c : Char) : Bool := ['-', ':', '_'].contains c || Text.isAlphanumeric c

namespace Draft

def start : Draft := ⟨.start, none, none, none⟩

def take (piece : Bytes) (d : Draft) (c : Char) (position : Nat) : Option Draft :=
  match d.part with
  | .start =>
      if c = '[' then some { d with part := .span (position + 1) }
      else if isWordStart c then some { d with part := .word position }
      else none
  | .word first =>
      if c = '=' then do
        return { d with target := some (← between? piece first position), part := .level (position + 1) }
      else if c = '[' then do
        return { d with target := some (← between? piece first position), part := .span (position + 1) }
      else some d
  | .span first =>
      if c = ']' then do
        return { d with span := some (← between? piece first position), part := .spanClosed }
      else if c = '\x7b' then do
        let name ← between? piece first position
        return { d with span := if name.isEmpty then none else some name, part := .field (position + 1) }
      else some d
  | .field first =>
      if c = '\x7d' then do
        let text ← between? piece first position
        if text.isEmpty then none
        else return { d with field := some (← FieldTest.ofText? text), part := .fieldClosed }
      else some d
  | .fieldClosed => if c = ']' then some { d with part := .spanClosed } else none
  | .spanClosed => if c = '=' then some { d with part := .level (position + 1) } else none
  | .level _ => some d

def takeAll (piece : Bytes) (d : Draft) (position : Nat) : List Char → Option Draft
  | [] => some d
  | c :: cs => (d.take piece c position).bind fun d => d.takeAll piece (position + c.utf8Size) cs

/-- A word without an equals sign is a level if it can be one, and else a target. -/
def finish (piece : Bytes) (d : Draft) : Option Directive :=
  let everything := Level.trace.verbosity
  match d.part with
  | .word first =>
      (between? piece first piece.length).map fun word =>
        match Limit.ofText? word with
        | some limit => ⟨none, d.span, d.field, limit⟩
        | none => ⟨some word, d.span, d.field, everything⟩
  | .level first =>
      (between? piece first piece.length).bind fun word =>
        if word.isEmpty then some ⟨d.target, d.span, d.field, everything⟩
        else (Limit.ofText? word).map (⟨d.target, d.span, d.field, ·⟩)
  | .spanClosed => some ⟨d.target, d.span, d.field, everything⟩
  | _ => none

end Draft

def parse? (cs : List Char) : Option Directive :=
  let piece := Bytes.ofText (String.ofList cs)
  (Draft.start.takeAll piece 0 (Text.trim cs)).bind (·.finish piece)

/-- Whether a directive is about spans alone. -/
def waitsForSpan (d : Directive) : Bool := d.span.isSome || d.field.any (·.value.isSome)

/-- Every event has a message; a directive that waits for spans reaches none. -/
def reaches (d : Directive) (e : Event) : Bool :=
  !d.waitsForSpan && d.target.all (·.isPrefixOf e.target) &&
    d.field.all fun test => test.name == "message" || e.fields.any (·.1 == test.name)

/-- At least as narrow: by the length of the target, then by the field. -/
def coversAsMuch (d other : Directive) : Bool :=
  let width := fun (d : Directive) => (d.target.map String.utf8ByteSize).elim 0 (· + 1)
  if width d = width other then
    match d.field, other.field with
    | _, none => true
    | none, some _ => false
    | some x, some y => y.name ≤ x.name
  else width other < width d

end Directive

end Checksum.Log
