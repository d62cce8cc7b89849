import Checksum.Command.Files

/-!
# File systems

What the command may count on in the system that it runs in. Files have contents, and a path leads to
one file at most. Reading hands over, in portions, the content of the file that the path leads to, and
changes nothing; writing gives the content to the file that the path then leads to, and to no other.
Nothing is said of which paths can be read or written, nor of the reasons why others cannot: paths may
lead to one and the same file, to a directory or to nothing.

What a write may do that fails is a law of its own (`SparingWrites`), which only the results about
failures ask for: if the file cannot be opened nothing changes, but behind that the file itself may, since
it has been emptied already.

A `World` is a file system: a path leads where it led before a write, though what stands there may have
become a file (`World.locate_put`).
-/

namespace Checksum.Command

namespace Files

variable {σ : Type} [Files (StateM σ)]

/-- What comes when a path is read. -/
def portions (s : σ) (path : String) : Except ReadError (List Bytes) :=
  ((Files.read path : StateM σ _) s).1

def inputPortions (s : σ) : Except SystemError (List Bytes) := ((Files.readInput : StateM σ _) s).1

/-- Whether a write succeeds, and what is there after it in either case. -/
def written (s : σ) (path : String) (content : Bytes) : Except WriteError Unit × σ :=
  (Files.write path content : StateM σ _) s

end Files

open Files

class FileSystem (σ : Type) [Files (StateM σ)] where
  File : Type
  file? : σ → String → Option File
  content? : σ → File → Option Bytes
  read_state : ∀ (s : σ) path, ((Files.read path : StateM σ _) s).2 = s
  readInput_state : ∀ s : σ, ((Files.readInput : StateM σ _) s).2 = s
  content_of_portions : ∀ (s : σ) path pieces, portions s path = .ok pieces →
    ∃ file, file? s path = some file ∧ content? s file = some pieces.flatten
  content_of_written : ∀ (s : σ) path content after, written s path content = (.ok (), after) →
    ∃ file, file? after path = some file ∧ content? after file = some content ∧
      ∀ other, other ≠ file → content? after other = content? s other

/-- A write that cannot open its file changes nothing, and one that fails behind that changes no other file. -/
class SparingWrites (σ : Type) [Files (StateM σ)] [FileSystem σ] : Prop where
  eq_of_opening : ∀ (s : σ) path content e after,
    written s path content = (.error (.opening e), after) → after = s
  content_of_writing : ∀ (s : σ) path content e after,
    written s path content = (.error (.writing e), after) →
      ∃ file, FileSystem.file? after path = some file ∧
        ∀ other, other ≠ file → FileSystem.content? after other = FileSystem.content? s other

namespace FileSystem

variable {σ : Type} [Files (StateM σ)] [FileSystem σ]

/-- The content of the file that a path leads to. -/
def contentAt? (s : σ) (path : String) : Option Bytes := (file? s path).bind (content? s)

theorem contentAt?_of_portions {s : σ} {path : String} {pieces : List Bytes}
    (h : portions s path = .ok pieces) : contentAt? s path = some pieces.flatten := by
  obtain ⟨file, hfile, hcontent⟩ := content_of_portions s path pieces h
  rw [contentAt?, hfile, Option.bind_some, hcontent]

theorem contentAt?_of_written {s after : σ} {path : String} {content : Bytes}
    (h : written s path content = (.ok (), after)) : contentAt? after path = some content := by
  obtain ⟨file, hfile, hcontent, -⟩ := content_of_written s path content after h
  rw [contentAt?, hfile, Option.bind_some, hcontent]

end FileSystem

namespace Place

/-- Where a path leads that has led here, once a file has been written. -/
def updated (name : String) (content : Bytes) : Place → Place
  | .file other old => if name = other then .file name content else .file other old
  | .vacant other => if name = other then .file name content else .vacant other
  | place => place

/-- The name of a file that is there or may come to be there. -/
def name? : Place → Option String
  | .file name _ => some name
  | .vacant name => some name
  | _ => none

end Place

namespace World

variable (w : World) (name : String) (content : Bytes)

theorem content?_put (other : String) :
    (w.put name content).content? other = if name = other then some content else w.content? other := by
  simp only [content?, put, List.find?_cons]
  split
  · simp_all
  · rename_i hne
    have hne : name ≠ other := by simpa using hne
    rw [if_neg hne, List.find?_filter]
    congr 2
    funext file
    by_cases h : file.1 = other
    · simp [h, Ne.symm hne]
    · simp [h]

/-! ### Along a path -/

/-- What stands in the working directory by a name. -/
def entry (step : String) : Place :=
  match w.content? step with
  | some content => .file step content
  | none => .vacant step

/-- One step from a directory; `inside` is what stands in it by the name of the step. -/
def stepFrom (directory inside : Place) (step : String) : Except SystemError Place :=
  if step = "." then .ok directory
  else if step = ".." then .ok .elsewhere
  else if maxNameSize < step.utf8ByteSize then .error .nameTooLong
  else .ok inside

theorem enter_working (step : String) :
    w.enter .working step = stepFrom .working (w.entry step) step := by
  simp only [enter, stepFrom, entry]
  cases w.content? step <;> rfl

theorem enter_elsewhere (step : String) :
    w.enter .elsewhere step = stepFrom .elsewhere .nowhere step := rfl

theorem entry_put (step : String) :
    (w.put name content).entry step = (w.entry step).updated name content := by
  rw [entry, entry, content?_put]
  by_cases hname : name = step
  · subst hname
    rw [if_pos rfl]
    cases w.content? name with
    | none => exact (if_pos rfl).symm
    | some old => exact (if_pos rfl).symm
  · rw [if_neg hname]
    cases w.content? step with
    | none => exact (if_neg hname).symm
    | some old => exact (if_neg hname).symm

theorem map_stepFrom (f : Place → Place) (hf : f .elsewhere = .elsewhere) (directory inside : Place)
    (step : String) :
    (stepFrom directory inside step).map f = stepFrom (f directory) (f inside) step := by
  simp only [stepFrom, apply_ite (Except.map f)]
  simp only [Except.map, hf]

/-- Whether what is said of a file is so. -/
def Holds : Place → Prop
  | .file name content => w.content? name = some content
  | _ => True

theorem holds_entry (step : String) : w.Holds (w.entry step) := by
  unfold entry
  split
  · assumption
  · trivial

variable {w}

theorem holds_stepFrom {directory inside place : Place} {step : String} (hdirectory : w.Holds directory)
    (helsewhere : w.Holds .elsewhere) (hinside : w.Holds inside)
    (h : stepFrom directory inside step = .ok place) : w.Holds place := by
  simp only [stepFrom] at h
  repeat' split at h
  · cases h
    exact hdirectory
  · cases h
    exact helsewhere
  · cases h
  · cases h
    exact hinside

/-- A path goes on from directories only, and no write makes or removes one. -/
theorem enter_put {place next : Place} {step : String} (h : w.enter place step = .ok next) :
    w.Holds next ∧
      (w.put name content).enter (place.updated name content) step = .ok (next.updated name content) := by
  -- Taking the step before the write and following what it leads to comes to the same.
  have hmap := congrArg (Except.map (Place.updated name content)) h
  have helsewhere : w.Holds .elsewhere := trivial
  cases place with
  | working =>
      rw [enter_working] at h
      rw [enter_working, map_stepFrom _ rfl, ← entry_put] at hmap
      have hworking : w.Holds .working := trivial
      exact ⟨holds_stepFrom hworking helsewhere (w.holds_entry step) h, (enter_working _ step).trans hmap⟩
  | elsewhere =>
      rw [enter_elsewhere] at h
      rw [enter_elsewhere, map_stepFrom _ rfl] at hmap
      have hnowhere : w.Holds .nowhere := trivial
      exact ⟨holds_stepFrom helsewhere helsewhere hnowhere h, hmap⟩
  | file _ _ => cases h
  | vacant _ => cases h
  | nowhere => cases h

theorem foldlM_enter_put {names : List String} {first last : Place} (hfirst : w.Holds first)
    (h : names.foldlM w.enter first = .ok last) :
    w.Holds last ∧ names.foldlM (w.put name content).enter (first.updated name content)
      = .ok (last.updated name content) := by
  induction names generalizing first with
  | nil =>
      cases h
      exact ⟨hfirst, rfl⟩
  | cons step names ih =>
      rw [List.foldlM_cons] at h ⊢
      cases hstep : w.enter first step with
      | error e =>
          rw [hstep] at h
          cases h
      | ok next =>
          rw [hstep] at h
          obtain ⟨hnext, hput⟩ := enter_put name content hstep
          rw [hput]
          exact ih hnext h

/-- A path leads where it led before, though the file there may be a new one. -/
theorem locate_put {path : String} {place : Place} (h : w.locate path = .ok place) :
    w.Holds place ∧ (w.put name content).locate path = .ok (place.updated name content) := by
  simp only [locate, locateBy] at h ⊢
  have hfirst (condition : Prop) [Decidable condition] :
      w.Holds (if condition then .elsewhere else .working) ∧
        (if condition then Place.elsewhere else .working).updated name content
          = if condition then Place.elsewhere else .working := by
    split
    · exact ⟨trivial, rfl⟩
    · exact ⟨trivial, rfl⟩
  split at h
  · cases h
  · rename_i hempty
    split at h
    · cases h
    · rename_i hlong
      obtain ⟨hholds, hsame⟩ := hfirst (path.toList.head? = some '/')
      have hwalk := foldlM_enter_put name content hholds h
      rw [hsame] at hwalk
      rw [if_neg hempty, if_neg hlong]
      exact hwalk

/-! ### Reading and writing -/

variable (w) in
/-- The name of the file that a path leads to, which may not be there yet. -/
def file? (path : String) : Option String :=
  match w.locate path with
  | .ok place => place.name?
  | .error _ => none

theorem content?_of_read {path : String} {pieces : List Bytes} (h : w.read path = .ok pieces) :
    ∃ name, w.file? path = some name ∧ w.content? name = some pieces.flatten := by
  simp only [read] at h
  split at h
  · cases h
  · rename_i name content hplace
    split at h
    · cases h
    · cases h
      refine ⟨name, ?_, ?_⟩
      · simp only [file?, hplace, Place.name?]
      · rw [w.portioning.flatten_cut]
        exact (locate_put name content hplace).1
  · cases h
  · cases h
  · cases h

/-- A path can be opened for writing only if it leads to a file or a name for one. -/
theorem locate_of_target {path : String} (h : w.target path = .ok name) :
    ∃ place, w.locate path = .ok place ∧ place.name? = some name := by
  simp only [target] at h
  split at h
  · split at h <;> cases h
  · split at h
    · cases h
    · rename_i hplace
      cases h
      exact ⟨_, hplace, rfl⟩
    · rename_i hplace
      cases h
      exact ⟨_, hplace, rfl⟩
    · cases h
    · cases h

/-- What is put behind a path that leads to a file, or to a name for one, can be found there. -/
theorem content?_of_put {path : String} (h : w.target path = .ok name) :
    (w.put name content).file? path = some name ∧ (w.put name content).content? name = some content ∧
      ∀ other, other ≠ name → (w.put name content).content? other = w.content? other := by
  obtain ⟨place, hplace, hname⟩ := locate_of_target name h
  have hupdated : place.updated name content = .file name content := by
    cases place with
    | file other old =>
        cases hname
        exact if_pos rfl
    | vacant other =>
        cases hname
        exact if_pos rfl
    | _ => cases hname
  have hafter := (locate_put name content hplace).2
  rw [hupdated] at hafter
  refine ⟨?_, ?_, ?_⟩
  · simp only [file?, hafter, Place.name?]
  · rw [content?_put, if_pos rfl]
  · intro other hother
    rw [content?_put, if_neg (Ne.symm hother)]

/-- A write does not get as far as a file, or puts all of the content there, or what there is room for. -/
theorem write_cases {path : String} {result : Except WriteError Unit} {after : World}
    (h : w.write path content = (result, after)) :
    (∃ e, result = .error (.opening e) ∧ after = w) ∨
    ∃ name, w.target path = .ok name ∧ after = w.put name (w.fitting content) ∧
      (result = .ok () ∧ w.fitting content = content ∨ result = .error (.writing .noSpace)) := by
  simp only [write] at h
  split at h
  · obtain ⟨rfl, rfl⟩ := Prod.mk.inj h
    exact .inl ⟨_, rfl, rfl⟩
  · rename_i name htarget
    obtain ⟨rfl, rfl⟩ := Prod.mk.inj h
    refine .inr ⟨name, htarget, rfl, ?_⟩
    split
    · rename_i hfits
      exact .inl ⟨rfl, hfits⟩
    · exact .inr rfl

end World

instance : FileSystem World where
  File := String
  file? := World.file?
  content? := World.content?
  read_state _ _ := rfl
  readInput_state _ := rfl
  content_of_portions w path pieces h := World.content?_of_read h
  content_of_written w path content after h := by
    obtain ⟨e, hresult, -⟩ | ⟨name, htarget, rfl, ⟨-, hfits⟩ | hresult⟩ := World.write_cases content h
    · cases hresult
    · rw [hfits]
      exact ⟨name, World.content?_of_put name content htarget⟩
    · cases hresult

instance : SparingWrites World where
  eq_of_opening w path content e after h := by
    obtain ⟨-, -, rfl⟩ | ⟨name, -, -, ⟨hresult, -⟩ | hresult⟩ := World.write_cases content h
    · rfl
    · cases hresult
    · cases hresult
  content_of_writing w path content e after h := by
    obtain ⟨e', hresult, -⟩ | ⟨name, htarget, rfl, -⟩ := World.write_cases content h
    · cases hresult
    · obtain ⟨hfile, -, hothers⟩ := World.content?_of_put name (w.fitting content) htarget
      exact ⟨name, hfile, hothers⟩

end Checksum.Command
