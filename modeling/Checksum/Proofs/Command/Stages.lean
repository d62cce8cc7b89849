import Checksum.Command.Run
import Checksum.Proofs.Command.FileSystem
import Checksum.Proofs.Uniform

/-!
# What a run comes to

A stage of a run tells what it does, and may read or change files. `Stage.Leads` says to what result and
to what state of the files it leads, whatever has been told before and on whatever host of the platform;
one stage behind another leads where the first leads to the second (`Stage.Leads.bind_ok`), unless the
first fails (`Stage.Leads.bind_error`).

So what a call of the command comes to is said without any host (`Call.run_eq_result`): the hasher that it
sets out with, the pieces that it gathers, the hasher that has absorbed them, and the files that it leaves,
be it in saving its state or in failing to. All files are read as they stand before the call, since nothing is written until all has been read. The
pieces make up one message, however the files are handed over (`Call.message?_of_pieces`).
-/

namespace Checksum.Command

open Files

variable {σ α β : Type} {platform : Platform} {s s' s'' : σ}

theorem exists_of_bind_eq_ok {x : Except Failure α} {f : α → Except Failure β} {b : β}
    (h : (x >>= f) = .ok b) : ∃ a, x = .ok a ∧ f a = .ok b := by
  cases x with
  | error e => cases h
  | ok a => exact ⟨a, rfl, h⟩

/-! ### Stages -/

namespace Stage

def Leads (x : Stage (StateM σ) α) (platform : Platform) (s : σ) (r : Except Failure α) (s' : σ) : Prop :=
  ∀ host : Host, host.platform = platform →
    ∃ after : Host, after.platform = platform ∧ x host s = ((r, after), s')

variable {r : Except Failure β} {x : Stage (StateM σ) α} {f : α → Stage (StateM σ) β}

theorem leads_pure (a : α) : (pure a : Stage (StateM σ) α).Leads platform s (.ok a) s := by
  intro host hhost
  exact ⟨host, hhost, rfl⟩

theorem leads_throw (e : Failure) : (throw e : Stage (StateM σ) α).Leads platform s (.error e) s := by
  intro host hhost
  exact ⟨host, hhost, rfl⟩

theorem bind_apply_ok {host after : Host} {a : α} (hx : x host s = ((.ok a, after), s')) :
    (x >>= f) host s = f a after s' := by
  simp only [bind, ExceptT.bind, ExceptT.mk, StateT.bind, hx]
  rfl

theorem bind_apply_error {host after : Host} {e : Failure} (hx : x host s = ((.error e, after), s')) :
    (x >>= f) host s = ((.error e, after), s') := by
  simp only [bind, ExceptT.bind, ExceptT.mk, StateT.bind, hx]
  rfl

theorem Leads.bind_ok {a : α} (hx : x.Leads platform s (.ok a) s')
    (hf : (f a).Leads platform s' r s'') : (x >>= f).Leads platform s r s'' := by
  intro host hhost
  obtain ⟨between, hbetween, hxrun⟩ := hx host hhost
  rw [bind_apply_ok hxrun]
  exact hf between hbetween

theorem Leads.bind_error {e : Failure} (hx : x.Leads platform s (.error e) s') :
    (x >>= f).Leads platform s (.error e) s' := by
  intro host hhost
  obtain ⟨after, hafter, hxrun⟩ := hx host hhost
  exact ⟨after, hafter, bind_apply_error hxrun⟩

theorem leads_get_bind {f : Host → Stage (StateM σ) β}
    (hf : ∀ host, host.platform = platform → (f host).Leads platform s r s') :
    (get >>= f).Leads platform s r s' := by
  intro host hhost
  exact hf host hhost host hhost

theorem leads_set {host : Host} (hhost : host.platform = platform) :
    (set host : Stage (StateM σ) PUnit).Leads platform s (.ok ()) s := by
  intro _ _
  exact ⟨host, hhost, rfl⟩

theorem leads_tell (e : Event) :
    (modify (·.tell e) : Stage (StateM σ) PUnit).Leads platform s (.ok ()) s := by
  intro host hhost
  exact ⟨host.tell e, hhost, rfl⟩

theorem leads_lift (platform : Platform) (s : σ) (x : StateM σ α) :
    (liftM x : Stage (StateM σ) α).Leads platform s (.ok (x s).1) (x s).2 := by
  intro host hhost
  exact ⟨host, hhost, rfl⟩

end Stage

/-! ### What each stage comes to -/

/-- As no backend has been chosen yet, a new hasher has the backend that is detected. -/
theorem obtain_leads (s : σ) (host : Host) (hchosen : host.chosen = none) (a : Algorithm) :
    ∃ after : Host, after.platform = host.platform ∧
      (obtain a : Stage (StateM σ) Hasher) host s
        = ((.ok ((Hasher.start host.detect a).absorb host.platform []), after), s) := by
  rcases host with ⟨platform, forcePortable, chosen, filter, log⟩
  cases hchosen
  -- Each algorithm has its constructor in the registry, and telling so chooses no backend.
  refine ⟨((Host.mk platform forcePortable none filter log).defaultRegistry.2.construct (.fresh a)).2,
    ?_⟩
  cases a with
  | md5 => exact ⟨rfl, rfl⟩
  | sha224 => exact ⟨rfl, rfl⟩
  | sha256 => exact ⟨rfl, rfl⟩

variable [Files (StateM σ)]

variable (s) in
/-- The hasher that a run sets out with: a new one, or one restored from what a path leads to. -/
def outset (h : Hasher) : Option String → Except Failure Hasher
  | none => .ok h
  | some path =>
      match portions s path with
      | .error e => .error (.readingState path e.cause)
      | .ok pieces => (h.restore pieces.flatten).mapError (.importingState path)

variable (s) in
def gatherFile (path : String) : Except Failure (List Bytes) :=
  (portions s path).mapError (Failure.ofReadError path)

variable (s) in
/-- The pieces that a run absorbs: those of all files one after another, or of the standard input. -/
def gather (files : List String) : Except Failure (List Bytes) :=
  if files.isEmpty then (inputPortions s).mapError .readingInput
  else (files.mapM (gatherFile s)).map List.flatten

variable (s) in
/-- Whether a run saves its state, if it is to, and the files that it leaves in either case. -/
def deposit (h : Hasher) : Option String → Except Failure Unit × σ
  | none => (.ok (), s)
  | some path =>
      let write := written s path h.save
      (write.1.mapError fun e => .writingState path e.cause, write.2)

def setOut (a : Algorithm) (h : Hasher) : Option String → Stage (StateM σ) Hasher
  | none => pure h
  | some path => resume a path h

def store (h : Hasher) : Option String → Stage (StateM σ) Unit
  | none => pure ()
  | some path => save path h

/-- The stages behind the first, for the hasher that comes of it. -/
def goOn (args : Args) (h : Hasher) : Stage (StateM σ) String := do
  let h ← setOut args.algorithm h args.resume
  let taken ← absorbAll args.files h
  modify (·.tell (absorbed args.algorithm taken.2))
  store taken.1 args.saveState
  return checksumLine (taken.1.checksum (← get).platform) args.algorithm

theorem run_eq (args : Args) :
    (run args : Stage (StateM σ) String) = obtain args.algorithm >>= goOn args := by
  rcases args with ⟨a, saveState, resume, files⟩
  cases saveState with
  | none =>
      cases resume with
      | none => rfl
      | some path => rfl
  | some path =>
      cases resume with
      | none => rfl
      | some path => rfl

theorem written_of_deposit {h : Hasher} {path : String} {after : σ}
    (hdeposit : deposit s h (some path) = (.ok (), after)) :
    written s path h.save = (.ok (), after) := by
  rw [deposit] at hdeposit
  rcases hwritten : written s path h.save with ⟨result, files⟩
  rw [hwritten] at hdeposit
  cases result with
  | error e => cases hdeposit
  | ok _ =>
      cases hdeposit
      rfl

variable (platform s) in
/-- A write that fails is carried on with what it leaves. -/
theorem store_leads (h : Hasher) (path : Option String) :
    (store h path : Stage (StateM σ) Unit).Leads platform s (deposit s h path).1
      (deposit s h path).2 := by
  cases path with
  | none => exact Stage.leads_pure ()
  | some path =>
      have hwrite := Stage.leads_lift platform s (Files.write path h.save : StateM σ _)
      simp only [deposit, written]
      cases hresult : ((Files.write path h.save : StateM σ _) s).1 with
      | error e =>
          rw [hresult] at hwrite
          exact hwrite.bind_ok (Stage.leads_throw _)
      | ok _ =>
          rw [hresult] at hwrite
          exact hwrite.bind_ok (Stage.leads_pure ())

variable [FileSystem σ]

theorem contentAt?_of_gatherFile {path : String} {pieces : List Bytes}
    (h : gatherFile s path = .ok pieces) :
    FileSystem.contentAt? s path = some pieces.flatten := by
  cases hportions : portions s path with
  | error e =>
      rw [gatherFile, hportions] at h
      cases h
  | ok portions =>
      rw [gatherFile, hportions] at h
      cases h
      exact FileSystem.contentAt?_of_portions hportions

theorem leads_read_bind {path : String} {f : Except ReadError (List Bytes) → Stage (StateM σ) β}
    {r : Except Failure β} (hf : (f (portions s path)).Leads platform s r s') :
    ((liftM (Files.read path : StateM σ _) : Stage (StateM σ) _) >>= f).Leads platform s r s' := by
  have hread := Stage.leads_lift platform s (Files.read path : StateM σ _)
  rw [FileSystem.read_state] at hread
  exact hread.bind_ok hf

theorem leads_readInput_bind {f : Except SystemError (List Bytes) → Stage (StateM σ) β}
    {r : Except Failure β} (hf : (f (inputPortions s)).Leads platform s r s') :
    ((liftM (Files.readInput : StateM σ _) : Stage (StateM σ) _) >>= f).Leads platform s r s' := by
  have hread := Stage.leads_lift platform s (Files.readInput : StateM σ _)
  rw [FileSystem.readInput_state] at hread
  exact hread.bind_ok hf

variable (platform s)

theorem setOut_leads (a : Algorithm) (h : Hasher) (path : Option String) :
    (setOut a h path : Stage (StateM σ) Hasher).Leads platform s (outset s h path) s := by
  cases path with
  | none => exact Stage.leads_pure h
  | some path =>
      apply leads_read_bind
      rw [outset]
      cases portions s path with
      | error e => exact Stage.leads_throw _
      | ok pieces =>
          apply Stage.leads_get_bind
          intro host hhost
          simp only [Host.restore]
          cases h.restore pieces.flatten with
          | error e =>
              refine Stage.Leads.bind_ok (Stage.leads_set hhost) ?_
              exact Stage.leads_throw _
          | ok restored =>
              refine Stage.Leads.bind_ok (Stage.leads_set hhost) ?_
              exact (Stage.leads_tell _).bind_ok (Stage.leads_pure restored)

theorem absorbFile_leads (h : Hasher) (count : Nat) (path : String) :
    (absorbFile (h, count) path : Stage (StateM σ) (Hasher × Nat)).Leads platform s
      ((gatherFile s path).map fun pieces =>
        ((h.writeAll platform pieces).1, count + (h.writeAll platform pieces).2)) s := by
  apply leads_read_bind
  rw [gatherFile]
  cases portions s path with
  | error e => exact Stage.leads_throw _
  | ok pieces =>
      apply Stage.leads_get_bind
      intro host hhost
      rw [hhost]
      exact Stage.leads_pure _

/-- The hasher is handed on from file to file, as if all their pieces were written in one go. -/
theorem foldlM_absorbFile_leads (files : List String) (h : Hasher) (count : Nat) :
    (files.foldlM absorbFile (h, count) : Stage (StateM σ) (Hasher × Nat)).Leads platform s
      ((files.mapM (gatherFile s)).map fun found =>
        ((h.writeAll platform found.flatten).1, count + (h.writeAll platform found.flatten).2)) s := by
  induction files generalizing h count with
  | nil => exact Stage.leads_pure _
  | cons path files ih =>
      have hfile := absorbFile_leads platform s h count path
      rw [List.foldlM_cons, List.mapM_cons]
      cases hpieces : gatherFile s path with
      | error e =>
          rw [hpieces] at hfile
          exact hfile.bind_error
      | ok pieces =>
          rw [hpieces] at hfile
          refine Stage.Leads.bind_ok hfile ?_
          have hrest := ih (h.writeAll platform pieces).1 (count + (h.writeAll platform pieces).2)
          cases hfound : files.mapM (gatherFile s) with
          | error e =>
              rw [hfound] at hrest
              exact hrest
          | ok found =>
              rw [hfound] at hrest
              -- `hrest` writes the pieces of the first file, and then those of the others.
              simp only [bind, Except.bind, pure, Except.pure, Except.map, List.flatten_cons,
                Hasher.writeAll_append, ← Nat.add_assoc] at hrest ⊢
              exact hrest

theorem absorbAll_leads (files : List String) (h : Hasher) :
    (absorbAll files h : Stage (StateM σ) (Hasher × Nat)).Leads platform s
      ((gather s files).map (h.writeAll platform)) s := by
  rw [absorbAll, gather]
  split
  · apply leads_readInput_bind
    cases inputPortions s with
    | error e => exact Stage.leads_throw _
    | ok pieces =>
        apply Stage.leads_get_bind
        intro host hhost
        rw [hhost]
        exact Stage.leads_pure _
  · have hfiles := foldlM_absorbFile_leads platform s files h 0
    simp only [Nat.zero_add] at hfiles
    cases hfound : files.mapM (gatherFile s) with
    | error e =>
        rw [hfound] at hfiles
        exact hfiles
    | ok found =>
        rw [hfound] at hfiles
        exact hfiles

/-! ### Calls -/

/-- A call of the command with arguments that can be read, and the files as they stand before it. -/
structure Call (σ : Type) where
  platform : Platform
  env : Environment
  argv : List String
  args : Args
  parse_argv : parse argv = .ok args
  before : σ

namespace Call

/-- What is reported of the stages. -/
def reportOf (log : List String) : Except Failure String → Report
  | .ok line => ⟨0, line, log, ""⟩
  | .error failure => ⟨1, "", log, failure.report⟩

variable {σ : Type}

def backend (c : Call σ) : Backend := c.platform.detect c.env.forcePortable

/-- A new hasher that has been given nothing. -/
def newHasher (c : Call σ) : Hasher :=
  (Hasher.start c.backend c.args.algorithm).absorb c.platform []

theorem algorithm_newHasher (c : Call σ) : c.newHasher.algorithm = c.args.algorithm := by
  rw [newHasher, Hasher.start_eq_of, Hasher.absorb_of, Hasher.algorithm_of]

variable [Files (StateM σ)]

section

variable (c : Call σ)

def run : Report × σ := (execute c.platform c.env c.argv : StateM σ Report) c.before

def report : Report := c.run.1

/-- The files as the call leaves them. -/
def after : σ := c.run.2

/-- The host that the stages start on. -/
def host : Host :=
  { Host.start c.platform c.env.forcePortable with filter := some (.ofVariable c.env.logFilter) }

def outset : Except Failure Hasher := Command.outset c.before c.newHasher c.args.resume

def pieces : Except Failure (List Bytes) := gather c.before c.args.files

/-- The hasher that has absorbed everything. -/
def last : Except Failure Hasher := do
  let h ← c.outset
  let pieces ← c.pieces
  return (h.writeAll c.platform pieces).1

/-- The last hasher, if nothing fails, and the files as they are left in either case. -/
def result : Except Failure Hasher × σ :=
  match c.last with
  | .error failure => (.error failure, c.before)
  | .ok last =>
      let saved := deposit c.before last c.args.saveState
      (saved.1.map fun _ => last, saved.2)

theorem run_eq_report :
    c.run =
      let stages := (Command.run c.args : Stage (StateM σ) String) c.host c.before
      (reportOf stages.1.2.lines stages.1.1, stages.2) := by
  simp only [run, execute, c.parse_argv]
  change (StateT.bind (Command.run c.args c.host) _) c.before = _
  simp only [StateT.bind]
  rcases (Command.run c.args : Stage (StateM σ) String) c.host c.before with ⟨⟨result, after⟩, files⟩
  cases result with
  | error e => rfl
  | ok line => rfl

end

variable [FileSystem σ] (c : Call σ)

/-- The line that a hasher ends in. -/
def lineOf (last : Hasher) : String := checksumLine (last.checksum c.platform) c.args.algorithm

theorem goOn_leads :
    (goOn c.args c.newHasher : Stage (StateM σ) String).Leads c.platform c.before
      (c.result.1.map c.lineOf) c.result.2 := by
  have houtset := setOut_leads c.platform c.before c.args.algorithm c.newHasher
    c.args.resume
  simp only [result, last, outset, pieces]
  cases hh : Command.outset c.before c.newHasher c.args.resume with
  | error e =>
      rw [hh] at houtset
      exact houtset.bind_error
  | ok h =>
      rw [hh] at houtset
      have hall := absorbAll_leads c.platform c.before c.args.files h
      cases hpieces : gather c.before c.args.files with
      | error e =>
          rw [hpieces] at hall
          exact houtset.bind_ok hall.bind_error
      | ok pieces =>
          rw [hpieces] at hall
          have hstore := store_leads c.platform c.before
            (h.writeAll c.platform pieces).1 c.args.saveState
          simp only [bind, Except.bind, pure, Except.pure]
          cases hdeposit : (deposit c.before (h.writeAll c.platform pieces).1 c.args.saveState).1 with
          | error e =>
              rw [hdeposit] at hstore
              exact houtset.bind_ok (hall.bind_ok ((Stage.leads_tell _).bind_ok hstore.bind_error))
          | ok _ =>
              rw [hdeposit] at hstore
              refine houtset.bind_ok (hall.bind_ok ((Stage.leads_tell _).bind_ok (hstore.bind_ok ?_)))
              apply Stage.leads_get_bind
              intro host hhost
              rw [hhost]
              exact Stage.leads_pure _

theorem run_eq_result : ∃ log, c.run = (reportOf log (c.result.1.map c.lineOf), c.result.2) := by
  obtain ⟨between, hbetween, hobtain⟩ := obtain_leads c.before c.host rfl c.args.algorithm
  have hrun : (Command.run c.args : Stage (StateM σ) String) c.host c.before
      = (goOn c.args c.newHasher : Stage (StateM σ) String) between c.before := by
    rw [Command.run_eq]
    exact Stage.bind_apply_ok hobtain
  obtain ⟨last, -, hstages⟩ := c.goOn_leads between hbetween
  rw [run_eq_report, hrun, hstages]
  exact ⟨last.lines, rfl⟩

theorem after_eq : c.after = c.result.2 := by
  obtain ⟨log, hrun⟩ := c.run_eq_result
  rw [after, hrun]

variable {c}

theorem report_of_ok {last : Hasher} (h : c.result.1 = .ok last) :
    c.report.exit = 0 ∧ c.report.output = c.lineOf last ∧ c.report.complaint = "" := by
  obtain ⟨log, hrun⟩ := c.run_eq_result
  rw [report, hrun, h]
  exact ⟨rfl, rfl, rfl⟩

theorem report_of_error {failure : Failure} (h : c.result.1 = .error failure) :
    c.report.exit = 1 ∧ c.report.output = "" ∧ c.report.complaint = failure.report := by
  obtain ⟨log, hrun⟩ := c.run_eq_result
  rw [report, hrun, h]
  exact ⟨rfl, rfl, rfl⟩

/-! ### Messages -/

variable (c)

/-- What the files of a call hold as they stand before it, one behind another, or else its input. -/
def message? : Option Bytes :=
  if c.args.files.isEmpty then (inputPortions c.before).toOption.map List.flatten
  else (c.args.files.mapM (FileSystem.contentAt? c.before)).map List.flatten

variable {c}

theorem mapM_contentAt? {files : List String} {found : List (List Bytes)}
    (h : files.mapM (gatherFile c.before) = .ok found) :
    files.mapM (FileSystem.contentAt? c.before) = some (found.map List.flatten) := by
  induction files generalizing found with
  | nil =>
      cases h
      rfl
  | cons path files ih =>
      rw [List.mapM_cons] at h ⊢
      obtain ⟨pieces, hpieces, h⟩ := exists_of_bind_eq_ok h
      obtain ⟨others, hothers, h⟩ := exists_of_bind_eq_ok h
      cases h
      rw [contentAt?_of_gatherFile hpieces, ih hothers]
      rfl

/-- The pieces make up the message, however they are cut. -/
theorem message?_of_pieces {pieces : List Bytes} (h : c.pieces = .ok pieces) :
    c.message? = some pieces.flatten := by
  rw [Call.pieces, gather] at h
  rw [message?]
  split at h
  · rename_i hempty
    rw [if_pos hempty]
    cases hinput : inputPortions c.before with
    | error e =>
        rw [hinput] at h
        cases h
    | ok portions =>
        rw [hinput] at h
        cases h
        rfl
  · rename_i hfiles
    rw [if_neg hfiles]
    cases hfound : c.args.files.mapM (gatherFile c.before) with
    | error e =>
        rw [hfound] at h
        cases h
    | ok found =>
        rw [hfound] at h
        cases h
        rw [mapM_contentAt? hfound, List.flatten_flatten]
        rfl

end Call

end Checksum.Command
