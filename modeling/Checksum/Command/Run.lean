import Checksum.Command.Args
import Checksum.Command.Files
import Checksum.Host
import Checksum.Text.ByteCount

/-!
# Running the command

One run absorbs all its files, or the standard input if it names none, into a single hash, and prints
one line. It goes through stages in a fixed order: read a saved state and restore it, read the files
one after another, write the state, print. The first stage that fails ends the run with a report of
what it was doing and why it failed, and nothing is printed; the state is written only when all the
input has been absorbed.
-/

namespace Checksum.Command

/-- The values of the two environment variables that matter. -/
structure Environment where
  forcePortable : Option Bytes
  logFilter : Option Bytes

inductive Failure where
  | unavailable (algorithm : Algorithm)
  | readingState (path : String) (cause : SystemError)
  | importingState (path : String) (cause : StateError)
  | opening (path : String) (cause : SystemError)
  | reading (path : String) (cause : SystemError)
  | readingInput (cause : SystemError)
  | writingState (path : String) (cause : SystemError)
  deriving DecidableEq, Repr

namespace Failure

/-- What was being done. -/
def context : Failure → String
  | unavailable a => a.name ++ " is not available"
  | readingState path _ => "reading state " ++ path
  | importingState path _ => "importing state " ++ path
  | opening path _ => "opening " ++ path
  | reading path _ => "reading " ++ path
  | readingInput _ => "reading stdin"
  | writingState path _ => "writing state " ++ path

def cause? : Failure → Option String
  | unavailable _ => none
  | importingState _ cause => some cause.message
  | readingState _ cause => some cause.text
  | opening _ cause => some cause.text
  | reading _ cause => some cause.text
  | readingInput cause => some cause.text
  | writingState _ cause => some cause.text

def ofReadError (path : String) : ReadError → Failure
  | .opening cause => opening path cause
  | .reading cause => reading path cause

def report (f : Failure) : String :=
  "Error: " ++ f.context ++ "\n" ++
    match f.cause? with
    | some cause => "\nCaused by:\n    " ++ cause ++ "\n"
    | none => ""

end Failure

/-- What a run leaves behind beside files. -/
structure Report where
  exit : Nat
  output : String
  log : List String
  complaint : String
  deriving DecidableEq, Repr

def helpLines : List String :=
  ["Print the checksum of each file, or of standard input when no file is given",
    "",
    "Usage: cksum [OPTIONS] [FILES]...",
    "",
    "Arguments:",
    "  [FILES]...  Files to hash. All files are absorbed into a single checksum",
    "",
    "Options:",
    "  -a, --algorithm <ALGORITHM>    Hash algorithm: md5, sha224 or sha256 [default: SHA-256]",
    "      --save-state <SAVE_STATE>  Write the unfinished state to this path once all input has been absorbed",
    "      --resume <RESUME>          Import a previously saved state before absorbing any input",
    "  -h, --help                     Print help"]

def helpText : String := String.join (helpLines.map (· ++ "\n"))

/-- The line that a run prints: the checksum, two spaces, the name of the algorithm. -/
def checksumLine (checksum : Bytes) (a : Algorithm) : String :=
  checksum.toHex ++ "  " ++ a.name ++ "\n"

def resumed (a : Algorithm) (path : String) : Event :=
  ⟨.info, "cksum", "resumed " ++ a.name ++ " state", [("path", path)]⟩

def absorbed (a : Algorithm) (count : Nat) : Event :=
  ⟨.info, "cksum", "absorbed " ++ Text.ByteCount.render count, [("algorithm", a.name)]⟩

/-- A stage of a run, which may fail and which keeps what it told when it does. -/
abbrev Stage (m : Type → Type) := ExceptT Failure (StateT Host m)

section

variable {m : Type → Type} [Monad m] [Files m]

def obtain (a : Algorithm) : Stage m Hasher := do
  let (registry, p) := (← get).defaultRegistry
  match registry.get? a with
  | some c =>
      let (h, p) := p.construct c
      set p
      return h
  | none =>
      set p
      throw (.unavailable a)

def resume (a : Algorithm) (path : String) (h : Hasher) : Stage m Hasher := do
  let content ← (Files.read path : m _)
  match content with
  | .error e => throw (.readingState path e.cause)
  | .ok portions =>
      let (result, p) := (← get).restore h portions.flatten
      set p
      match result with
      | .error e => throw (.importingState path e)
      | .ok restored =>
          modify (·.tell (resumed a path))
          return restored

/-- Absorbs a file, and adds its size to the count. -/
def absorbFile (taken : Hasher × Nat) (path : String) : Stage m (Hasher × Nat) := do
  let content ← (Files.read path : m _)
  match content with
  | .error e => throw (.ofReadError path e)
  | .ok portions =>
      let written := taken.1.writeAll (← get).platform portions
      return (written.1, taken.2 + written.2)

def absorbInput (h : Hasher) : Stage m (Hasher × Nat) := do
  let content ← (Files.readInput : m _)
  match content with
  | .error e => throw (.readingInput e)
  | .ok portions => return h.writeAll (← get).platform portions

def absorbAll (files : List String) (h : Hasher) : Stage m (Hasher × Nat) :=
  if files.isEmpty then absorbInput h else files.foldlM absorbFile (h, 0)

def save (path : String) (h : Hasher) : Stage m Unit := do
  let written ← (Files.write path h.save : m _)
  match written with
  | .error e => throw (.writingState path e.cause)
  | .ok () => return ()

/-- All stages in order; the result is the line to print. -/
def run (args : Args) : Stage m String := do
  let mut h ← obtain args.algorithm
  if let some path := args.resume then
    h ← resume args.algorithm path h
  let taken ← absorbAll args.files h
  modify (·.tell (absorbed args.algorithm taken.2))
  if let some path := args.saveState then
    save path taken.1
  return checksumLine (taken.1.checksum (← get).platform) args.algorithm

/-- A whole run of the command, from its arguments to its report. A usage error is told in one line. -/
def execute (platform : Platform) (env : Environment) (argv : List String) : m Report := do
  let bare := Host.start platform env.forcePortable
  let p := (bare.installFilter env.logFilter).getD bare
  match parse argv with
  | .error .help => return ⟨0, helpText, [], ""⟩
  | .error (.refused e) => return ⟨2, "", [], e.line ++ "\n"⟩
  | .ok args =>
      let (result, p) ← (run args).run.run p
      match result with
      | .ok line => return ⟨0, line, p.lines, ""⟩
      | .error failure => return ⟨1, "", p.lines, failure.report⟩

end

end Checksum.Command
