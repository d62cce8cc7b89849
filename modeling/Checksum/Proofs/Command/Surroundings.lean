import Checksum.Proofs.Backends
import Checksum.Proofs.Command.Stages

/-!
# Runs in other surroundings

A run of the command finds the values of two environment variables, and a processor with or without
instructions for SHA. They settle which lines of the log are let through and which backend compresses, and
nothing else. Two stages are `Stage.Alike` if they come to results that look the same and to the same files,
on whatever hosts they start; one stage behind another is alike if both are (`Stage.Alike.bind`). A hasher
looks like what it is blindly, so a run is alike to itself stage by stage (`run_alike`), and what it reports
beside the log is the same in all surroundings (`quiet_execute`). Nothing is asked of the files for this: they
may be unreadable, change in being read, or be left half written.
-/

namespace Checksum.Command

variable {σ ε α β γ δ : Type}

theorem cases_of_map_eq_map {view : α → γ} {x y : Except ε α} (h : x.map view = y.map view) :
    (∃ e, x = .error e ∧ y = .error e) ∨ ∃ a b, x = .ok a ∧ y = .ok b ∧ view a = view b := by
  cases x with
  | error e =>
      cases y with
      | error e' => exact .inl ⟨e, rfl, (congrArg Except.error (Except.error.inj h)).symm⟩
      | ok b => cases h
  | ok a =>
      cases y with
      | error e' => cases h
      | ok b => exact .inr ⟨a, b, rfl, rfl, Except.ok.inj h⟩

/-! ### Stages that look the same -/

namespace Stage

/-- On any hosts with sound platforms, the results look the same and the files are the same. -/
def Alike (view : α → γ) (x y : Stage (StateM σ) α) : Prop :=
  ∀ host host' : Host, host.platform.Sound → host'.platform.Sound → ∀ s,
    let one := x host s
    let two := y host' s
    one.1.1.map view = two.1.1.map view ∧ one.2 = two.2 ∧
      one.1.2.platform.Sound ∧ two.1.2.platform.Sound

variable {view : α → γ} {view' : β → δ} {x y : Stage (StateM σ) α} {f g : α → Stage (StateM σ) β}

theorem alike_pure {a b : α} (h : view a = view b) :
    Alike view (pure a : Stage (StateM σ) α) (pure b) := by
  intro host host' hhost hhost' s
  exact ⟨congrArg Except.ok h, rfl, hhost, hhost'⟩

theorem alike_throw (e : Failure) : Alike view (throw e : Stage (StateM σ) α) (throw e) := by
  intro host host' hhost hhost' s
  exact ⟨rfl, rfl, hhost, hhost'⟩

theorem Alike.bind (hx : Alike view x y) (hf : ∀ a b, view a = view b → Alike view' (f a) (g b)) :
    Alike view' (x >>= f) (y >>= g) := by
  intro host host' hhost hhost' s
  obtain ⟨hresult, hfiles, hone, htwo⟩ := hx host host' hhost hhost' s
  rcases hxrun : x host s with ⟨⟨result, after⟩, files⟩
  rcases hyrun : y host' s with ⟨⟨result', after'⟩, files'⟩
  simp only [hxrun, hyrun] at hresult hfiles hone htwo
  subst hfiles
  obtain ⟨e, rfl, rfl⟩ | ⟨a, b, rfl, rfl, hab⟩ := cases_of_map_eq_map hresult
  · rw [bind_apply_error hxrun, bind_apply_error hyrun]
    exact ⟨rfl, rfl, hone, htwo⟩
  · rw [bind_apply_ok hxrun, bind_apply_ok hyrun]
    exact hf a b hab after after' hone htwo files

theorem alike_get_bind {f g : Host → Stage (StateM σ) β}
    (h : ∀ host host' : Host, host.platform.Sound → host'.platform.Sound →
      Alike view' (f host) (g host')) :
    Alike view' (get >>= f) (get >>= g) := by
  intro host host' hhost hhost' s
  exact h host host' hhost hhost' host host' hhost hhost' s

theorem alike_set {host host' : Host} (hhost : host.platform.Sound) (hhost' : host'.platform.Sound) :
    Alike id (set host : Stage (StateM σ) PUnit) (set host') := by
  intro _ _ _ _ s
  exact ⟨rfl, rfl, hhost, hhost'⟩

/-- It makes no difference what is told. -/
theorem alike_tell (e e' : Event) :
    Alike id (modify (·.tell e) : Stage (StateM σ) PUnit) (modify (·.tell e')) := by
  intro host host' hhost hhost' s
  exact ⟨rfl, rfl, hhost, hhost'⟩

/-- What is done to the files is done on every host. -/
theorem alike_lift_bind (x : StateM σ α) (h : ∀ a, Alike view' (f a) (g a)) :
    Alike view' ((liftM x : Stage (StateM σ) α) >>= f) ((liftM x : Stage (StateM σ) α) >>= g) := by
  have hx : Alike id (liftM x : Stage (StateM σ) α) (liftM x) := by
    intro host host' hhost hhost' s
    exact ⟨rfl, rfl, hhost, hhost'⟩
  refine hx.bind ?_
  rintro a b rfl
  exact h a

end Stage

open Stage

/-! ### Stage by stage -/

variable {h k : Hasher}

theorem blind_construct {host host' : Host} (hhost : host.platform.Sound)
    (hhost' : host'.platform.Sound) (c : Constructor) :
    (host.construct c).1.blind = (host'.construct c).1.blind := by
  have hs := hhost.serves (host.backendFor c.algorithm).1 c.algorithm
  have hs' := hhost'.serves (host'.backendFor c.algorithm).1 c.algorithm
  rw [Host.construct_eq hs, Host.construct_eq hs', Hasher.fresh, Hasher.fresh, Hasher.blind_of,
    Hasher.blind_of]

theorem obtain_alike (a : Algorithm) :
    Alike Hasher.blind (obtain a : Stage (StateM σ) Hasher) (obtain a) := by
  intro host host' hhost hhost' s
  have hobtain (host : Host) : (obtain a : Stage (StateM σ) Hasher) host s
      = ((.ok (host.defaultRegistry.2.construct (.fresh a)).1,
          (host.defaultRegistry.2.construct (.fresh a)).2), s) := by
    cases a with
    | md5 => rfl
    | sha224 => rfl
    | sha256 => rfl
  have hafter (host : Host) (hhost : host.platform.Sound) :
      (host.defaultRegistry.2.construct (.fresh a)).2.platform.Sound := by
    have hplatform := host.defaultRegistry.2.newHasher_platform a
    rw [Host.construct]
    exact hplatform ▸ hhost
  have hregistry : host.defaultRegistry.2.platform.Sound := hhost
  have hregistry' : host'.defaultRegistry.2.platform.Sound := hhost'
  have hblind := blind_construct hregistry hregistry' (.fresh a)
  rw [hobtain, hobtain]
  exact ⟨congrArg Except.ok hblind, rfl, hafter host hhost, hafter host' hhost'⟩

variable [Files (StateM σ)]

theorem resume_alike (hblind : h.blind = k.blind) (a : Algorithm) (path : String) :
    Alike Hasher.blind (resume a path h : Stage (StateM σ) Hasher) (resume a path k) := by
  apply alike_lift_bind
  intro content
  cases content with
  | error e => exact alike_throw _
  | ok portions =>
      apply alike_get_bind
      intro host host' hhost hhost'
      have hrestored : (h.restore portions.flatten).map Hasher.blind
          = (k.restore portions.flatten).map Hasher.blind := by
        rw [← Hasher.restore_blind, hblind, Hasher.restore_blind]
      obtain ⟨e, hone, htwo⟩ | ⟨one, two, hone, htwo, hlike⟩ := cases_of_map_eq_map hrestored
      · have htold : (host.tell (h.refusal e)).platform.Sound := hhost
        have htold' : (host'.tell (k.refusal e)).platform.Sound := hhost'
        simp only [Host.restore, hone, htwo]
        refine (alike_set htold htold').bind ?_
        intro _ _ _
        exact alike_throw _
      · simp only [Host.restore, hone, htwo]
        refine (alike_set hhost hhost').bind ?_
        intro _ _ _
        refine (alike_tell _ _).bind ?_
        intro _ _ _
        exact alike_pure hlike

/-- What a hasher and the count of what it has taken look like; the count is only told. -/
def look (taken : Hasher × Nat) : Hasher := taken.1.blind

theorem look_writeAll {p q : Platform} (hp : p.Sound) (hq : q.Sound) (hblind : h.blind = k.blind)
    (pieces : List Bytes) : look (h.writeAll p pieces) = look (k.writeAll q pieces) := by
  have hwritten : (h.writeAll p pieces).map Hasher.blind id = (k.writeAll q pieces).map Hasher.blind id := by
    rw [← h.writeAll_blind hp hp, hblind, k.writeAll_blind hq hp]
  exact congrArg Prod.fst hwritten

theorem absorbFile_alike {taken taken' : Hasher × Nat} (hlook : look taken = look taken')
    (path : String) :
    Alike look (absorbFile taken path : Stage (StateM σ) (Hasher × Nat)) (absorbFile taken' path) := by
  apply alike_lift_bind
  intro content
  cases content with
  | error e => exact alike_throw _
  | ok portions =>
      apply alike_get_bind
      intro host host' hhost hhost'
      exact alike_pure (look_writeAll hhost hhost' hlook portions)

theorem foldlM_absorbFile_alike (files : List String) {taken taken' : Hasher × Nat}
    (hlook : look taken = look taken') :
    Alike look (files.foldlM absorbFile taken : Stage (StateM σ) (Hasher × Nat))
      (files.foldlM absorbFile taken') := by
  induction files generalizing taken taken' with
  | nil => exact alike_pure hlook
  | cons path files ih =>
      rw [List.foldlM_cons, List.foldlM_cons]
      refine (absorbFile_alike hlook path).bind ?_
      intro next next' hnext
      exact ih hnext

theorem absorbInput_alike (hblind : h.blind = k.blind) :
    Alike look (absorbInput h : Stage (StateM σ) (Hasher × Nat)) (absorbInput k) := by
  apply alike_lift_bind
  intro content
  cases content with
  | error e => exact alike_throw _
  | ok portions =>
      apply alike_get_bind
      intro host host' hhost hhost'
      exact alike_pure (look_writeAll hhost hhost' hblind portions)

theorem absorbAll_alike (hblind : h.blind = k.blind) (files : List String) :
    Alike look (absorbAll files h : Stage (StateM σ) (Hasher × Nat)) (absorbAll files k) := by
  rw [absorbAll, absorbAll]
  split
  · exact absorbInput_alike hblind
  · exact foldlM_absorbFile_alike files hblind

theorem setOut_alike (hblind : h.blind = k.blind) (a : Algorithm) (path : Option String) :
    Alike Hasher.blind (setOut a h path : Stage (StateM σ) Hasher) (setOut a k path) := by
  cases path with
  | none => exact alike_pure hblind
  | some path => exact resume_alike hblind a path

/-- The state that is saved is the same to the byte. -/
theorem store_alike (hblind : h.blind = k.blind) (path : Option String) :
    Alike id (store h path : Stage (StateM σ) Unit) (store k path) := by
  cases path with
  | none => exact alike_pure rfl
  | some path =>
      have hsave : h.save = k.save := by
        rw [← h.save_blind, hblind, k.save_blind]
      rw [store, store, save, save, hsave]
      apply alike_lift_bind
      intro written
      cases written with
      | error e => exact alike_throw _
      | ok _ => exact alike_pure rfl

theorem goOn_alike (args : Args) (hblind : h.blind = k.blind) :
    Alike id (goOn args h : Stage (StateM σ) String) (goOn args k) := by
  refine (setOut_alike hblind args.algorithm args.resume).bind ?_
  intro first first' hfirst
  refine (absorbAll_alike hfirst args.files).bind ?_
  intro taken taken' htaken
  refine (alike_tell _ _).bind ?_
  intro _ _ _
  refine (store_alike htaken args.saveState).bind ?_
  intro _ _ _
  apply alike_get_bind
  intro host host' hhost hhost'
  have hchecksum : taken.1.checksum host.platform = taken'.1.checksum host'.platform := by
    have hblind : taken.1.blind = taken'.1.blind := htaken
    rw [← taken.1.checksum_blind hhost hhost, hblind, taken'.1.checksum_blind hhost' hhost]
  rw [hchecksum]
  exact alike_pure rfl

theorem run_alike (args : Args) : Alike id (run args : Stage (StateM σ) String) (run args) := by
  rw [run_eq]
  refine (obtain_alike args.algorithm).bind ?_
  intro first first' hfirst
  exact goOn_alike args hfirst

/-! ### Whole runs -/

/-- The report without the lines of the log. -/
def Report.quiet (r : Report) : Report := { r with log := [] }

theorem Call.quiet_reportOf (log log' : List String) (result : Except Failure String) :
    (reportOf log result).quiet = (reportOf log' result).quiet := by
  cases result with
  | error failure => rfl
  | ok line => rfl

theorem Call.quiet_run {c d : Call σ} (hc : c.platform.Sound) (hd : d.platform.Sound)
    (hargs : c.args = d.args) (hbefore : c.before = d.before) :
    c.run.map Report.quiet id = d.run.map Report.quiet id := by
  obtain ⟨hresult, hfiles, -, -⟩ := run_alike c.args c.host d.host hc hd c.before
  rw [Except.map_id, id, id] at hresult
  rw [c.run_eq_report, d.run_eq_report, ← hargs, ← hbefore]
  refine Prod.ext ?_ hfiles
  simp only [Prod.map_fst, hresult]
  exact quiet_reportOf _ _ _

theorem quiet_execute {p q : Platform} (hp : p.Sound) (hq : q.Sound) (env env' : Environment)
    (argv : List String) (before : σ) :
    ((execute p env argv : StateM σ Report) before).map Report.quiet id
      = ((execute q env' argv : StateM σ Report) before).map Report.quiet id := by
  cases hparse : parse argv with
  | error e =>
      simp only [execute, hparse]
      cases e with
      | help => rfl
      | refused e => rfl
  | ok args =>
      let c : Call σ := ⟨p, env, argv, args, hparse, before⟩
      let d : Call σ := ⟨q, env', argv, args, hparse, before⟩
      have hc : c.platform.Sound := hp
      have hd : d.platform.Sound := hq
      exact Call.quiet_run hc hd rfl rfl

/-- What a run finds around it: the two variables, and whether the processor has instructions for SHA. -/
structure Surroundings where
  env : Environment
  shaInstructions : Bool

def Surroundings.execute (w : Surroundings) (kernel : Compression 8) (argv : List String) :
    StateM σ Report :=
  Command.execute ⟨w.shaInstructions, kernel⟩ w.env argv

/-- A user settles, by the reports so far and the files as they stand, what becomes of the files and what
is run on them next. -/
abbrev User (σ : Type) := List Report → σ → σ × List String

/-- Runs the command `n` times as the user asks for it, each time in surroundings of its own. The user sees
no line of the logs. -/
def runs (kernel : Compression 8) (user : User σ) (around : Nat → Surroundings) (before : σ) :
    Nat → List Report × σ
  | 0 => ([], before)
  | n + 1 =>
      let done := runs kernel user around before n
      let asked := user done.1 done.2
      let ran := ((around n).execute kernel asked.2 asked.1).map Report.quiet id
      (done.1 ++ [ran.1], ran.2)

theorem Surroundings.quiet_execute {kernel : Compression 8} (hkernel : kernel.InOrder Sha256.compress)
    (w w' : Surroundings) (argv : List String) (before : σ) :
    (w.execute kernel argv before).map Report.quiet id
      = (w'.execute kernel argv before).map Report.quiet id := by
  have hsound (shaInstructions : Bool) : (Platform.mk shaInstructions kernel).Sound := hkernel
  exact Command.quiet_execute (hsound _) (hsound _) w.env w'.env argv before

theorem runs_eq {kernel : Compression 8} (hkernel : kernel.InOrder Sha256.compress) (user : User σ)
    (around around' : Nat → Surroundings) (before : σ) (n : Nat) :
    runs kernel user around before n = runs kernel user around' before n := by
  induction n with
  | zero => rfl
  | succ n ih =>
      simp only [runs, ih]
      rw [(around n).quiet_execute hkernel (around' n)]

/-- If the kernel computes the block function, a run with the same arguments on the same files has the same
exit code, output and complaint and leaves the same files, whatever the variables are and whatever the
processor offers. So a user who runs the command again and again, on states saved by earlier runs or on
anything else, finds no difference if the surroundings change from run to run. -/
theorem surroundings_are_unobservable {kernel : Compression 8}
    (hkernel : kernel.InOrder Sha256.compress) :
    (∀ (w w' : Surroundings) (argv : List String) (before : σ),
      let one := w.execute kernel argv before
      let two := w'.execute kernel argv before
      one.1.exit = two.1.exit ∧ one.1.output = two.1.output ∧ one.1.complaint = two.1.complaint ∧
        one.2 = two.2) ∧
    ∀ (user : User σ) (around around' : Nat → Surroundings) (before : σ) (n : Nat),
      runs kernel user around before n = runs kernel user around' before n := by
  constructor
  · intro w w' argv before one two
    have hquiet : one.map Report.quiet id = two.map Report.quiet id :=
      w.quiet_execute hkernel w' argv before
    obtain ⟨hreport, hfiles⟩ := Prod.ext_iff.mp hquiet
    have hexit := congrArg Report.exit hreport
    have houtput := congrArg Report.output hreport
    have hcomplaint := congrArg Report.complaint hreport
    exact ⟨hexit, houtput, hcomplaint, hfiles⟩
  · intro user around around' before n
    exact runs_eq hkernel user around around' before n

/-- A state saved by the kernel and resumed portably, and the other way round; the logs do differ. -/
theorem surroundings_are_unobservable_resumed :
    let kernel := Sha256.Window.run
    let plain : Surroundings := ⟨⟨none, none⟩, true⟩
    let forced : Surroundings := ⟨⟨some (Bytes.ofText "yes"), some (Bytes.ofText "debug")⟩, true⟩
    let before : World := ⟨[("a", List.replicate 70 1), ("b", [2, 3])], [], .whole, none⟩
    let user : User World := fun reports files =>
      (files, if reports.isEmpty then ["--save-state", "s", "a"] else ["--resume", "s", "b"])
    let one := runs kernel user (fun n => if n = 0 then plain else forced) before 2
    let two := runs kernel user (fun n => if n = 0 then forced else plain) before 2
    let backend : Surroundings → Backend := fun w =>
      Platform.detect ⟨w.shaInstructions, kernel⟩ w.env.forcePortable
    kernel.InOrder Sha256.compress ∧ backend plain = .accelerated ∧ backend forced = .portable ∧
      one = two ∧ one.1.map Report.exit = [0, 0] ∧
      (plain.execute kernel ["a"] before).1.log ≠ (forced.execute kernel ["a"] before).1.log := by
  intro kernel plain forced before user one two backend
  have hkernel : kernel.InOrder Sha256.compress := Platform.generic_sound
  obtain ⟨-, hruns⟩ := surroundings_are_unobservable (σ := World) hkernel
  exact ⟨hkernel, by decide +kernel, by decide +kernel, hruns user _ _ before 2, by decide +kernel,
    by decide +kernel⟩

end Checksum.Command
