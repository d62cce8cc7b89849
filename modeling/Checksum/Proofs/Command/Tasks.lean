import Checksum.Proofs.Command.Stages
import Checksum.Proofs.Refusal

/-!
# Failing as a whole

The arguments of a run say what there is to do, task by task, before anything is done. For each task the
files and the input as they stand say whether it fails, and why: a saved state is refused for its first
bytes or its size (`refusal?`), a file is there or not, whatever the other tasks come to. A run does what
there is to do if no task fails; and otherwise it reports the first that does (`Call.fails_as_a_whole`), for
its result carries the complaint of the first task that fails (`Call.complaint?_result`).

A file for the state is opened and then written, which are two tasks. If a task up to the opening fails,
nothing has been changed; if the writing does, nothing but the file that has been opened
(`Call.after_of_cause?_eq_some`).
-/

namespace Checksum

open Command.Files Command.FileSystem

/-- Why a state is refused in which a hash of the algorithm is to go on. -/
def refusal? (a : Algorithm) (blob : Bytes) : Option StateError :=
  let size := if a = .md5 then 92 else 108
  if blob.length < 4 ∨ blob.take 4 ≠ a.tag.toList then some .identifier
  else if blob.length ≠ size then some (.size size blob.length)
  else none

theorem Hasher.refusal?_eq (h : Hasher) (blob : Bytes) :
    refusal? h.algorithm blob =
      match h.restore blob with
      | .error e => some e
      | .ok _ => none := by
  simp only [refusal?, ← savedSize_words]
  cases hrestore : h.restore blob with
  | error e =>
      cases e with
      | identifier => rw [if_pos ((h.restore_eq_identifier_iff blob).mp hrestore)]
      | size expected actual =>
          obtain ⟨htag, hsize, rfl, rfl⟩ := (h.restore_eq_size_iff blob _ _).mp hrestore
          have hno := mt Hasher.take_ne_tag_iff.mpr (not_not.mpr htag)
          rw [if_neg hno, if_pos hsize]
  | ok restored =>
      obtain ⟨htag, hsize⟩ := (h.exists_restore_iff blob).mp ⟨restored, hrestore⟩
      have hno := mt Hasher.take_ne_tag_iff.mpr (not_not.mpr htag)
      rw [if_neg hno, if_neg (not_not.mpr hsize)]

namespace Command

/-- What there is to do in a run that may fail. -/
inductive Task where
  | readState (path : String)
  | importState (path : String)
  | openFile (path : String)
  | readFile (path : String)
  | readInput
  | openState (path : String)
  | writeState (path : String)
  deriving DecidableEq, Repr

namespace Task

def doing : Task → String
  | readState path => "reading state " ++ path
  | importState path => "importing state " ++ path
  | openFile path => "opening " ++ path
  | readFile path => "reading " ++ path
  | readInput => "reading stdin"
  | openState path => "writing state " ++ path
  | writeState path => "writing state " ++ path

/-- What is reported if the task fails. -/
def complaint (t : Task) (cause : String) : String :=
  "Error: " ++ t.doing ++ "\n" ++ ("\nCaused by:\n    " ++ cause ++ "\n")

def ofState : Option String → List Task
  | none => []
  | some path => [readState path, importState path]

def ofFiles (files : List String) : List Task :=
  if files.isEmpty then [readInput] else files.flatMap fun path => [openFile path, readFile path]

def ofSave : Option String → List Task
  | none => []
  | some path => [openState path, writeState path]

variable {task : Task}

theorem ne_importState_of_mem_ofFiles {files : List String} (h : task ∈ ofFiles files)
    (path : String) : task ≠ importState path := by
  rintro rfl
  rw [ofFiles] at h
  split at h
  · simp at h
  · simp at h

theorem ne_importState_of_mem_ofSave {save : Option String} (h : task ∈ ofSave save)
    (path : String) : task ≠ importState path := by
  rintro rfl
  cases save with
  | none => simp [ofSave] at h
  | some path => simp [ofSave] at h

end Task

/-- All there is to do, in order. -/
def Args.tasks (args : Args) : List Task :=
  Task.ofState args.resume ++ Task.ofFiles args.files ++ Task.ofSave args.saveState

/-- The complaint that a result makes. -/
def complaint? {α : Type} : Except Failure α → Option String
  | .ok _ => none
  | .error failure => some failure.report

theorem complaint?_bind {α β : Type} (x : Except Failure α) (f : α → Except Failure β) :
    complaint? (x >>= f) = (complaint? x).or
      (match x with
        | .ok a => complaint? (f a)
        | .error _ => none) := by
  cases x with
  | error e => rfl
  | ok a => rfl

theorem complaint?_map {α β : Type} (x : Except Failure α) (f : α → β) :
    complaint? (x.map f) = complaint? x := by
  cases x with
  | error e => rfl
  | ok a => rfl

namespace Call

variable {σ : Type} [Files (StateM σ)] (c : Call σ)

/-- What becomes of the state at a path, if there is one by then. -/
def saving (path : String) : Except WriteError Unit :=
  match c.last with
  | .error _ => .ok ()
  | .ok h => (written c.before path h.save).1

/-- Why a task fails, if it does. -/
def cause? : Task → Option String
  | .readState path =>
      match portions c.before path with
      | .error e => some e.cause.text
      | .ok _ => none
  | .importState path =>
      match portions c.before path with
      | .error _ => none
      | .ok pieces => (refusal? c.args.algorithm pieces.flatten).map StateError.message
  | .openFile path =>
      match portions c.before path with
      | .error (.opening e) => some e.text
      | _ => none
  | .readFile path =>
      match portions c.before path with
      | .error (.reading e) => some e.text
      | _ => none
  | .readInput =>
      match inputPortions c.before with
      | .error e => some e.text
      | .ok _ => none
  | .openState path =>
      match c.saving path with
      | .error (.opening e) => some e.text
      | _ => none
  | .writeState path =>
      match c.saving path with
      | .error (.writing e) => some e.text
      | _ => none

def complaintOf? (t : Task) : Option String := (c.cause? t).map t.complaint

theorem complaint?_outset :
    complaint? c.outset = (Task.ofState c.args.resume).findSome? c.complaintOf? := by
  rw [outset]
  cases c.args.resume with
  | none => rfl
  | some path =>
      simp only [Task.ofState, List.findSome?, complaintOf?, cause?, Command.outset,
        ← algorithm_newHasher, Hasher.refusal?_eq]
      cases portions c.before path with
      | error e => rfl
      | ok pieces =>
          simp only
          cases c.newHasher.restore pieces.flatten with
          | error e => rfl
          | ok restored => rfl

theorem complaint?_gatherFile (path : String) :
    complaint? (gatherFile c.before path)
      = [Task.openFile path, Task.readFile path].findSome? c.complaintOf? := by
  simp only [gatherFile, List.findSome?, complaintOf?, cause?]
  cases portions c.before path with
  | error e =>
      cases e with
      | opening e => rfl
      | reading e => rfl
  | ok pieces => rfl

theorem complaint?_mapM (files : List String) :
    complaint? (files.mapM (gatherFile c.before))
      = (files.flatMap fun path => [Task.openFile path, Task.readFile path]).findSome?
          c.complaintOf? := by
  induction files with
  | nil => rfl
  | cons path files ih =>
      rw [List.mapM_cons, complaint?_bind, List.flatMap_cons, List.findSome?_append,
        complaint?_gatherFile, ← ih]
      cases hpieces : gatherFile c.before path with
      | error e =>
          rw [← complaint?_gatherFile, hpieces]
          rfl
      | ok pieces =>
          simp only
          rw [complaint?_bind]
          cases files.mapM (gatherFile c.before) with
          | error e => rfl
          | ok found => rfl

theorem complaint?_pieces :
    complaint? c.pieces = (Task.ofFiles c.args.files).findSome? c.complaintOf? := by
  rw [pieces, gather, Task.ofFiles]
  split
  · simp only [List.findSome?, complaintOf?, cause?]
    cases inputPortions c.before with
    | error e => rfl
    | ok pieces => rfl
  · rw [complaint?_map, complaint?_mapM]

theorem complaint?_last :
    complaint? c.last
      = (Task.ofState c.args.resume ++ Task.ofFiles c.args.files).findSome? c.complaintOf? := by
  rw [last, complaint?_bind, List.findSome?_append, complaint?_outset, ← complaint?_pieces]
  cases houtset : c.outset with
  | error e =>
      rw [← complaint?_outset, houtset]
      rfl
  | ok h =>
      simp only
      rw [complaint?_bind]
      cases c.pieces with
      | error e => rfl
      | ok pieces => rfl

theorem complaint?_deposit {h : Hasher} (hlast : c.last = .ok h) :
    complaint? (deposit c.before h c.args.saveState).1
      = (Task.ofSave c.args.saveState).findSome? c.complaintOf? := by
  cases c.args.saveState with
  | none => rfl
  | some path =>
      have hsaving : c.saving path = (written c.before path h.save).1 := by rw [saving, hlast]
      simp only [deposit, Task.ofSave, List.findSome?, complaintOf?, cause?, hsaving]
      cases (written c.before path h.save).1 with
      | error e =>
          cases e with
          | opening e => rfl
          | writing e => rfl
      | ok _ => rfl

theorem complaint?_result : complaint? c.result.1 = c.args.tasks.findSome? c.complaintOf? := by
  rw [result, Args.tasks, List.findSome?_append, ← complaint?_last]
  cases hlast : c.last with
  | error e => rfl
  | ok h =>
      simp only
      rw [complaint?_map, c.complaint?_deposit hlast]
      rfl

theorem findSome?_complaintOf?_eq_none_iff (tasks : List Task) :
    tasks.findSome? c.complaintOf? = none ↔ ∀ task ∈ tasks, c.cause? task = none := by
  simp only [List.findSome?_eq_none_iff, complaintOf?, Option.map_eq_none_iff]

/-- A state of another algorithm is read and then refused for its first bytes. -/
theorem cause?_importState {path : String} {pieces : List Bytes} {other : Hasher}
    (hpieces : portions c.before path = .ok pieces) (hother : pieces.flatten = other.save)
    (hne : other.algorithm ≠ c.args.algorithm) :
    c.cause? (.readState path) = none ∧
      c.cause? (.importState path) = some StateError.identifier.message := by
  have hrefused : c.newHasher.restore pieces.flatten = .error .identifier := by
    rw [hother]
    exact Hasher.restore_save_of_ne (by rwa [algorithm_newHasher])
  simp only [cause?, hpieces, ← algorithm_newHasher, Hasher.refusal?_eq, hrefused]
  exact ⟨trivial, rfl⟩

/-- Once all has been absorbed, only saving can have failed. -/
theorem mem_ofSave_of_last {h : Hasher} (hlast : c.last = .ok h) {task : Task} {cause : String}
    (htask : task ∈ c.args.tasks) (hcause : c.cause? task = some cause) :
    task ∈ Task.ofSave c.args.saveState := by
  have hnone := c.complaint?_last
  rw [hlast] at hnone
  rw [Args.tasks, List.mem_append] at htask
  rcases htask with hearlier | hsave
  · rw [(c.findSome?_complaintOf?_eq_none_iff _).mp hnone.symm task hearlier] at hcause
    cases hcause
  · exact hsave

theorem saving_of_cause?_openState {path cause : String} (h : c.cause? (.openState path) = some cause) :
    ∃ e, c.saving path = .error (.opening e) := by
  simp only [cause?] at h
  split at h
  · exact ⟨_, ‹_›⟩
  · cases h

theorem saving_of_cause?_writeState {path cause : String}
    (h : c.cause? (.writeState path) = some cause) : ∃ e, c.saving path = .error (.writing e) := by
  simp only [cause?] at h
  split at h
  · exact ⟨_, ‹_›⟩
  · cases h

variable [FileSystem σ]

theorem after_of_last_eq_error {failure : Failure} (hlast : c.last = .error failure) :
    c.after = c.before := by
  rw [after_eq, result, hlast]

theorem written_of_last_eq_ok {h : Hasher} {path : String} (hlast : c.last = .ok h)
    (hsave : c.args.saveState = some path) :
    written c.before path h.save = (c.saving path, c.after) := by
  rw [after_eq, result, saving, hlast, hsave]
  rfl

variable {c} in
/-- A call that comes to a result has absorbed its message, in pieces, and has saved that. -/
theorem of_result_eq_ok {last : Hasher} (h : c.result.1 = .ok last) :
    ∃ first pieces, c.outset = .ok first ∧ c.message? = some pieces.flatten ∧
      last = (first.writeAll c.platform pieces).1 ∧
      deposit c.before last c.args.saveState = (.ok (), c.after) := by
  rw [after_eq]
  rw [result] at h ⊢
  cases hlast : c.last with
  | error failure =>
      rw [hlast] at h
      cases h
  | ok last' =>
      rw [hlast] at h
      obtain ⟨first, houtset, hlast⟩ := exists_of_bind_eq_ok hlast
      obtain ⟨pieces, hpieces, hlast⟩ := exists_of_bind_eq_ok hlast
      simp only at h ⊢
      cases hdeposit : (deposit c.before last' c.args.saveState).1 with
      | error failure =>
          rw [hdeposit] at h
          cases h
      | ok _ =>
          rw [hdeposit] at h
          cases h
          cases hlast
          exact ⟨first, pieces, houtset, message?_of_pieces hpieces, rfl, Prod.ext hdeposit rfl⟩

theorem exit_eq_zero_iff : c.report.exit = 0 ↔ ∀ task ∈ c.args.tasks, c.cause? task = none := by
  rw [← findSome?_complaintOf?_eq_none_iff, ← complaint?_result]
  cases hresult : c.result.1 with
  | error failure =>
      rw [(report_of_error hresult).1]
      exact iff_of_false Nat.one_ne_zero (Option.some_ne_none _)
  | ok done => exact iff_of_true (report_of_ok hresult).1 rfl

theorem report_of_failing {done behind : List Task} {task : Task} {cause : String}
    (htasks : c.args.tasks = done ++ task :: behind) (hdone : ∀ earlier ∈ done, c.cause? earlier = none)
    (hcause : c.cause? task = some cause) :
    c.report.exit = 1 ∧ c.report.complaint = task.complaint cause ∧ c.report.output = "" := by
  -- Of the complaints in order, those up to this task are none and those behind it are not looked at.
  have hcomplaint := c.complaint?_result
  have hof : c.complaintOf? task = some (task.complaint cause) := by
    rw [complaintOf?, hcause]
    rfl
  rw [htasks, List.findSome?_append, (c.findSome?_complaintOf?_eq_none_iff done).mpr hdone,
    List.findSome?_cons, hof] at hcomplaint
  cases hresult : c.result.1 with
  | error failure =>
      rw [hresult] at hcomplaint
      obtain ⟨hexit, houtput, hreport⟩ := report_of_error hresult
      exact ⟨hexit, hreport.trans (Option.some.inj hcomplaint), houtput⟩
  | ok done =>
      rw [hresult] at hcomplaint
      cases hcomplaint

/-- Nothing is changed before the state is written, and then only the file that has been opened for it. -/
theorem after_of_cause?_eq_some [SparingWrites σ] {task : Task} {cause : String}
    (htask : task ∈ c.args.tasks) (hcause : c.cause? task = some cause) :
    ((∀ path, task ≠ .writeState path) → c.after = c.before) ∧
    ∀ path, task = .writeState path → ∃ file, file? c.after path = some file ∧
      ∀ other, other ≠ file → content? c.after other = content? c.before other := by
  cases hlast : c.last with
  | error failure =>
      refine ⟨fun _ => c.after_of_last_eq_error hlast, ?_⟩
      rintro path rfl
      obtain ⟨e, hsaving⟩ := c.saving_of_cause?_writeState hcause
      rw [saving, hlast] at hsaving
      cases hsaving
  | ok h =>
      have hmem := c.mem_ofSave_of_last hlast htask hcause
      cases hsave : c.args.saveState with
      | none =>
          rw [hsave] at hmem
          cases hmem
      | some path =>
          have hwritten := c.written_of_last_eq_ok hlast hsave
          simp only [hsave, Task.ofSave, List.mem_cons, List.not_mem_nil, or_false] at hmem
          rcases hmem with rfl | rfl
          · obtain ⟨e, hsaving⟩ := c.saving_of_cause?_openState hcause
            rw [hsaving] at hwritten
            constructor
            · intro _
              exact SparingWrites.eq_of_opening _ _ _ _ _ hwritten
            · intro path' heq
              cases heq
          · obtain ⟨e, hsaving⟩ := c.saving_of_cause?_writeState hcause
            rw [hsaving] at hwritten
            constructor
            · intro hno
              exact absurd rfl (hno path)
            · intro path' heq
              cases heq
              exact SparingWrites.content_of_writing _ _ _ _ _ hwritten

theorem report_of_other_algorithm {path : String} {pieces : List Bytes} {other : Hasher}
    (hresume : c.args.resume = some path) (hpieces : portions c.before path = .ok pieces)
    (hother : pieces.flatten = other.save) (hne : other.algorithm ≠ c.args.algorithm) :
    c.report.exit = 1 ∧
      c.report.complaint = (Task.importState path).complaint StateError.identifier.message := by
  obtain ⟨hread, himport⟩ := c.cause?_importState hpieces hother hne
  have htasks : c.args.tasks = [.readState path] ++ .importState path ::
      (Task.ofFiles c.args.files ++ Task.ofSave c.args.saveState) := by
    rw [Args.tasks, hresume, List.append_assoc]
    rfl
  have hdone : ∀ earlier ∈ [Task.readState path], c.cause? earlier = none := by
    intro earlier hearlier
    rw [List.mem_singleton.mp hearlier]
    exact hread
  obtain ⟨hexit, hcomplaint, -⟩ := c.report_of_failing htasks hdone himport
  exact ⟨hexit, hcomplaint⟩

theorem report_of_done (hexit : c.report.exit = 0) :
    c.report.complaint = "" ∧ ∃ first pieces last, c.outset = .ok first ∧
      c.message? = some pieces.flatten ∧ last = (first.writeAll c.platform pieces).1 ∧
      c.report.output = checksumLine (last.checksum c.platform) c.args.algorithm ∧
      deposit c.before last c.args.saveState = (.ok (), c.after) := by
  cases hresult : c.result.1 with
  | error failure =>
      rw [(report_of_error hresult).1] at hexit
      cases hexit
  | ok last =>
      obtain ⟨-, houtput, hcomplaint⟩ := report_of_ok hresult
      obtain ⟨first, pieces, houtset, hmessage, hlast, hdeposit⟩ := of_result_eq_ok hresult
      exact ⟨hcomplaint, first, pieces, last, houtset, hmessage, hlast, houtput, hdeposit⟩

end Call

end Command

end Checksum
