import Checksum.Bytes

/-!
# Files

What the command needs from outside: reading a file or the standard input, which arrive in portions,
and writing a file. A failure carries the reason that the system gives. Opening fails apart from what
is done with the open file: a directory can be opened, and only reading it fails; a file to be written
is emptied when it is opened, and what is written to it then may not find room.

`World` is one such outside, held as a value: a working directory of plain files and a standard
input. Paths are walked from the working directory, of whose surroundings nothing is known but that
they are directories. A path and the names in it have a greatest length, and what is written to a file
may have one.
-/

namespace Checksum.Command

structure SystemError where
  reason : String
  code : Nat
  deriving DecidableEq, Repr

namespace SystemError

def text (e : SystemError) : String := e.reason ++ " (os error " ++ toString e.code ++ ")"

def notFound : SystemError := ⟨"No such file or directory", 2⟩

def notADirectory : SystemError := ⟨"Not a directory", 20⟩

def isADirectory : SystemError := ⟨"Is a directory", 21⟩

def noSpace : SystemError := ⟨"No space left on device", 28⟩

def nameTooLong : SystemError := ⟨"File name too long", 36⟩

end SystemError

inductive ReadError where
  | opening (cause : SystemError)
  | reading (cause : SystemError)
  deriving DecidableEq, Repr

def ReadError.cause : ReadError → SystemError
  | opening cause => cause
  | reading cause => cause

inductive WriteError where
  | opening (cause : SystemError)
  | writing (cause : SystemError)
  deriving DecidableEq, Repr

def WriteError.cause : WriteError → SystemError
  | opening cause => cause
  | writing cause => cause

class Files (m : Type → Type) where
  read : String → m (Except ReadError (List Bytes))
  readInput : m (Except SystemError (List Bytes))
  write : String → Bytes → m (Except WriteError Unit)

/-- A way in which content is handed over: in portions that make it up. -/
structure Portioning where
  cut : Bytes → List Bytes
  flatten_cut : ∀ bs, (cut bs).flatten = bs

def Portioning.whole : Portioning := ⟨fun bs => [bs], by simp⟩

/-- The room is how many bytes can be written to a file; without one there is no end to them. -/
structure World where
  files : List (String × Bytes)
  input : Bytes
  portioning : Portioning := .whole
  room : Option Nat := none

/-- Where a path leads: a directory, a file that is there, or a name that no file has. -/
inductive Place where
  | working
  | elsewhere
  | file (name : String) (content : Bytes)
  | vacant (name : String)
  | nowhere
  deriving DecidableEq, Repr

namespace World

def content? (w : World) (name : String) : Option Bytes :=
  (w.files.find? (·.1 = name)).map (·.2)

def put (w : World) (name : String) (content : Bytes) : World :=
  { w with files := (name, content) :: w.files.filter (·.1 ≠ name) }

/-- The greatest length of a name, in bytes. -/
def maxNameSize : Nat := 255

/-- The greatest length of a path, in bytes. -/
def maxPathSize : Nat := 4095

/-- One step along a path. -/
def enter (w : World) (place : Place) (name : String) : Except SystemError Place :=
  match place with
  | .file _ _ => .error .notADirectory
  | .vacant _ => .error .notFound
  | .nowhere => .error .notFound
  | directory =>
      if name = "." then .ok directory
      else if name = ".." then .ok .elsewhere
      else if maxNameSize < name.utf8ByteSize then .error .nameTooLong
      else
        match directory, w.content? name with
        | .working, some content => .ok (.file name content)
        | .working, none => .ok (.vacant name)
        | _, _ => .ok .nowhere

/-- The names along a path. -/
def namesOf (path : String) : List String :=
  ((path.toList.splitOn '/').filter (!·.isEmpty)).map String.ofList

/-- Where the first names of a path lead, as many as `names` leaves. -/
def locateBy (w : World) (path : String) (names : List String → List String) : Except SystemError Place :=
  let first := if path.toList.head? = some '/' then Place.elsewhere else .working
  if path.isEmpty then .error .notFound
  else if maxPathSize < path.utf8ByteSize then .error .nameTooLong
  else (names (namesOf path)).foldlM w.enter first

def locate (w : World) (path : String) : Except SystemError Place := w.locateBy path id

/-- Where a path leads without its last name. -/
def locateParent (w : World) (path : String) : Except SystemError Place := w.locateBy path List.dropLast

/-- Whether a path ends in a slash and so means a directory. -/
def meansDirectory (path : String) : Bool := path.toList.getLast? == some '/'

def read (w : World) (path : String) : Except ReadError (List Bytes) :=
  match w.locate path with
  | .error e => .error (.opening e)
  | .ok (.file _ content) =>
      if meansDirectory path then .error (.opening .notADirectory)
      else .ok (w.portioning.cut content)
  | .ok (.vacant _) => .error (.opening .notFound)
  | .ok .nowhere => .error (.opening .notFound)
  | .ok _ => .error (.reading .isADirectory)

/-- The name of the file in the working directory that a path opens for writing, whether it is there or
not. A path that means a directory is refused before its last name is looked up. -/
def target (w : World) (path : String) : Except SystemError String :=
  if meansDirectory path then
    match w.locateParent path with
    | .error e => .error e
    | .ok (.file _ _) => .error .notADirectory
    | .ok (.vacant _) => .error .notFound
    | .ok .nowhere => .error .notFound
    | .ok _ => .error .isADirectory
  else
    match w.locate path with
    | .error e => .error e
    | .ok (.file name _) => .ok name
    | .ok (.vacant name) => .ok name
    | .ok .nowhere => .error .notFound
    | .ok _ => .error .isADirectory

/-- How much of the content there is room for. -/
def fitting (w : World) (content : Bytes) : Bytes :=
  match w.room with
  | none => content
  | some room => content.take room

/-- Opens a file and gives it the content, or what there is room for. -/
def write (w : World) (path : String) (content : Bytes) : Except WriteError Unit × World :=
  match w.target path with
  | .error e => (.error (.opening e), w)
  | .ok name =>
      let stored := w.fitting content
      (if stored = content then .ok () else .error (.writing .noSpace), w.put name stored)

end World

instance : Files (StateM World) where
  read path := fun w => (w.read path, w)
  readInput := fun w => (.ok (w.portioning.cut w.input), w)
  write path content := fun w => w.write path content

end Checksum.Command
