import Checksum.Registry
import Checksum.Text.Plain

/-!
# Arguments

The command takes three options with a value, a request for help, and files. A value may stand in
the next argument or be attached to its option; behind `--` every argument is a file. What is read
last stays pending: the value of an option and a run of files are looked at only when the next
option, the next file or the end comes. An argument that is no option of the command is refused at
once, so that it is reported before a fault in what is still pending.
-/

namespace Checksum.Command

/-- The options that take a value. -/
inductive ValueOption where
  | algorithm
  | saveState
  | resume
  deriving DecidableEq, Repr

namespace ValueOption

def all : List ValueOption := [algorithm, saveState, resume]

def long : ValueOption → String
  | algorithm => "algorithm"
  | saveState => "save-state"
  | resume => "resume"

def short? : ValueOption → Option Char
  | algorithm => some 'a'
  | _ => none

def usage : ValueOption → String
  | algorithm => "--algorithm <ALGORITHM>"
  | saveState => "--save-state <SAVE_STATE>"
  | resume => "--resume <RESUME>"

def ofLong? (name : List Char) : Option ValueOption := all.find? (·.long.toList == name)

def ofShort? (c : Char) : Option ValueOption := all.find? (·.short? == some c)

end ValueOption

/-- How the files are called in messages. -/
def filesUsage : String := "[FILES]..."

structure Args where
  algorithm : Algorithm
  saveState : Option String
  resume : Option String
  files : List String
  deriving DecidableEq, Repr

inductive UsageError where
  | unexpectedArgument (shown : String)
  | unexpectedValue (value : String) (option : String)
  | missingValue (usage : String)
  | repeated (option : ValueOption)
  | invalidAlgorithm (value : String) (cause : RegistryError)
  deriving DecidableEq, Repr

/-- What the user wrote is shown without what a terminal would obey. -/
def UsageError.message : UsageError → String
  | unexpectedArgument shown => "unexpected argument '" ++ Text.plain shown ++ "' found"
  | unexpectedValue value option =>
      "unexpected value '" ++ Text.plain value ++ "' for '" ++ option ++ "' found; no more were expected"
  | missingValue usage => "a value is required for '" ++ usage ++ "' but none was supplied"
  | repeated option => "the argument '" ++ option.usage ++ "' cannot be used multiple times"
  | invalidAlgorithm value cause =>
      "invalid value '" ++ Text.plain value ++ "' for '" ++ ValueOption.algorithm.usage ++ "': " ++
        cause.message

/-- The first line of the report, to which more may be added behind it. -/
def UsageError.line (e : UsageError) : String :=
  let line := ("error: " ++ e.message).toList.takeWhile (· != '\n')
  String.ofList (if line.getLast? == some '\r' then line.dropLast else line)

/-- Why reading the arguments ends early. -/
inductive Halt where
  | help
  | refused (e : UsageError)
  deriving DecidableEq, Repr

/-- What the arguments have said so far. -/
structure Draft where
  algorithm : Option Algorithm
  saveState : Option String
  resume : Option String
  files : List String
  deriving DecidableEq, Repr

namespace Draft

def empty : Draft := ⟨none, none, none, []⟩

def has (d : Draft) : ValueOption → Bool
  | .algorithm => d.algorithm.isSome
  | .saveState => d.saveState.isSome
  | .resume => d.resume.isSome

/-- A path must not be empty. -/
def checkPath (usage path : String) : Except Halt Unit :=
  if path.isEmpty then .error (.refused (.missingValue usage)) else .ok ()

/-- Takes the value of an option, which is given once and of the option's own form. -/
def setValue (d : Draft) (option : ValueOption) (value : Option String) : Except Halt Draft :=
  match value with
  | none => .error (.refused (.missingValue option.usage))
  | some text =>
      if d.has option then .error (.refused (.repeated option))
      else
        match option with
        | .algorithm =>
            match Algorithm.ofName text with
            | .ok a => .ok { d with algorithm := some a }
            | .error e => .error (.refused (.invalidAlgorithm text e))
        | .saveState => do
            checkPath option.usage text
            return { d with saveState := some text }
        | .resume => do
            checkPath option.usage text
            return { d with resume := some text }

def addFiles (d : Draft) (paths : List String) : Except Halt Draft := do
  paths.forM (checkPath filesUsage)
  return { d with files := d.files ++ paths }

/-- SHA-256 unless another algorithm is asked for. -/
def toArgs (d : Draft) : Args := ⟨d.algorithm.getD .sha256, d.saveState, d.resume, d.files⟩

end Draft

/-- What has been read and not yet been looked at. -/
inductive Pending where
  | nothing
  | value (option : ValueOption) (text : Option String)
  | files (paths : List String)
  deriving DecidableEq, Repr

structure Reading where
  draft : Draft
  pending : Pending
  onlyFiles : Bool
  deriving DecidableEq, Repr

namespace Reading

def start : Reading := ⟨.empty, .nothing, false⟩

def resolve (r : Reading) : Except Halt Draft :=
  match r.pending with
  | .nothing => .ok r.draft
  | .value option text => r.draft.setValue option text
  | .files paths => r.draft.addFiles paths

def refuse (e : UsageError) : Except Halt Reading := .error (.refused e)

def takeFile (r : Reading) (text : String) : Except Halt Reading :=
  match r.pending with
  | .files paths => .ok { r with pending := .files (paths ++ [text]) }
  | _ => do return { r with draft := ← r.resolve, pending := .files [text] }

/-- An argument that may be the value of the option before it. -/
def takePlain (r : Reading) (text : String) : Except Halt Reading :=
  match r.pending with
  | .value option none => .ok { r with pending := .value option (some text) }
  | _ => r.takeFile text

def takeOption (r : Reading) (option : ValueOption) (attached : Option String) : Except Halt Reading := do
  let draft ← r.resolve
  match attached with
  | none => return { r with draft, pending := .value option none }
  | some text => return { r with draft := ← draft.setValue option (some text), pending := .nothing }

def takeHelp (r : Reading) : Except Halt Reading := do
  let _ ← r.resolve
  .error .help

/-- What stands behind `--`. -/
def takeLong (r : Reading) (text : List Char) : Except Halt Reading :=
  let name := text.takeWhile (· != '=')
  let attached := match text.dropWhile (· != '=') with
    | _ :: value => some (String.ofList value)
    | [] => none
  match ValueOption.ofLong? name with
  | some option => r.takeOption option attached
  | none =>
      if name = "help".toList then
        match attached with
        | none => r.takeHelp
        | some value => refuse (.unexpectedValue value "--help")
      else refuse (.unexpectedArgument (String.ofList ('-' :: '-' :: name)))

/-- What stands behind `-`: a letter, and its value if it takes one, with or without an equals sign. -/
def takeShort (r : Reading) (c : Char) (behind : List Char) : Except Halt Reading :=
  match ValueOption.ofShort? c with
  | some option =>
      match behind with
      | [] => r.takeOption option none
      | '=' :: value => r.takeOption option (some (String.ofList value))
      | value => r.takeOption option (some (String.ofList value))
  | none =>
      if c = 'h' then r.takeHelp
      else refuse (.unexpectedArgument (String.ofList ['-', c]))

def take (r : Reading) (text : String) : Except Halt Reading :=
  if r.onlyFiles then r.takeFile text
  else
    match text.toList with
    | ['-', '-'] => .ok { r with onlyFiles := true }
    | '-' :: '-' :: long => r.takeLong long
    | '-' :: c :: behind => r.takeShort c behind
    | _ => r.takePlain text

end Reading

def parse (argv : List String) : Except Halt Args := do
  let last ← argv.foldlM Reading.take .start
  return (← last.resolve).toArgs

end Checksum.Command
