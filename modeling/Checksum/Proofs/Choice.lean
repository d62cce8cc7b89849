import Checksum.Proofs.Exchange
import Checksum.Proofs.Registered

/-!
# The backend is chosen once

The first step that needs a default backend chooses one, by the value that the forcing variable has then, and
tells of it. No other step chooses, and `Session.hostChange_step` says all that a step can do to the host: it
takes the default backend, or it forces, or it tells of something else. By induction a whole run has the one
backend that is settled by its lead-in, the steps before the first use (`Session.defaultBackend_run`), and tells
of it once (`Session.resolution_run`). From then on the variable is read by nothing but detection: with a
backend chosen, a host can be exchanged for one with another value of the variable, so that all other steps go
as they go without any forcing (`Session.run_ordinary`).
-/

namespace Checksum

/-- The value that a step gives the forcing variable. -/
def Step.forces? : Step → Option (Option Bytes)
  | .setForcePortable value => some value
  | _ => none

/-- What the forcing variable holds after a history in which it first held `value`. -/
def environment (value : Option Bytes) (steps : List Step) : Option Bytes :=
  steps.foldl (fun value step => step.forces?.getD value) value

/-- Whether an event tells of the choice of a backend. -/
def Event.tellsChoice (e : Event) : Bool := e.message = "selected SHA-256 compression backend"

/-- The hasher that a step acts on or copies. -/
def Step.actsOn? : Step → Option String
  | .clone _ source => some source
  | .boxedClone _ source => some source
  | .write name _ _ => some name
  | .writePieces name _ _ => some name
  | .checksum name => some name
  | .appendChecksum name _ => some name
  | .finalizeReset name => some name
  | .reset name => some name
  | .save name => some name
  | .restore name _ => some name
  | .describe name => some name
  | _ => none

namespace Host

theorem newHasher_of_ne {a : Algorithm} (ha : a ≠ .md5) (host : Host) :
    host.newHasher a = (.start host.defaultBackend.1 a, host.defaultBackend.2) := by
  cases a with
  | md5 => exact absurd rfl ha
  | sha224 => rfl
  | sha256 => rfl

theorem defaultBackend_of_some {host : Host} {b : Backend} (h : host.chosen = some b) :
    host.defaultBackend = (b, host) := by
  rw [defaultBackend, h]

theorem defaultBackend_of_none {host : Host} (h : host.chosen = none) :
    host.defaultBackend
      = (host.detect, { host with chosen := some host.detect, log := host.log ++ [choice host.detect] }) := by
  rw [defaultBackend, h]
  rfl

/-- The host with another value of the forcing variable. -/
def under (value : Option Bytes) (host : Host) : Host := { host with forcePortable := value }

/-- Where a backend has been chosen the value of the variable makes no difference. -/
theorem exchange_under {host : Host} {b : Backend} (h : host.chosen = some b) (value : Option Bytes) :
    Exchange (under value) host where
  platform := rfl
  tell _ _ := rfl
  defaultBackend := by
    have hunder : (host.under value).chosen = some b := h
    rw [defaultBackend_of_some hunder, defaultBackend_of_some h]
    rfl

end Host

namespace Session

/-! ### Uses -/

/-- Whether a step uses the default backend: it asks for it, or it makes a SHA-2 hasher without naming one. -/
def usesDefault (s : Session) : Step → Bool
  | .defaultBackend => true
  | .create _ a none => a ≠ .md5
  | .get _ a => (s.registry.get? a).any (·.algorithm ≠ .md5)
  | .getByName _ algorithmName =>
      match s.registry.getByName algorithmName with
      | .ok c => c.algorithm ≠ .md5
      | .error _ => false
  | .checksumOf a _ => a ≠ .md5
  | _ => false

/-- What a use shows if the default backend is `b`: it answers `b`, it puts a hasher on `b` under the name, or
it answers with the checksum of a hasher on `b`. -/
def Sees (s : Session) (b : Backend) (step : Step) : Prop :=
  let p := s.host.platform
  let taken := s.step step
  match step with
  | .defaultBackend => taken.1 = .backend b
  | .create name a none => taken.2.find? name = some ⟨.start b a, false⟩
  | .get name a => ∃ c, s.registry.get? a = some c ∧
      taken.2.find? name = some ⟨(Hasher.start b c.algorithm).absorb p c.absorbed, true⟩
  | .getByName name algorithmName => ∃ c, s.registry.getByName algorithmName = .ok c ∧
      taken.2.find? name = some ⟨(Hasher.start b c.algorithm).absorb p c.absorbed, true⟩
  | .checksumOf a data => taken.1 = .bytes (((Hasher.start b a).absorb p data).checksum p)
  | _ => False

variable {s : Session} {step : Step}

theorem putConstructed_of_ne {c : Constructor} (hc : c.algorithm ≠ .md5) (name : String) :
    (s.putConstructed name c).2.find? name
      = some ⟨(Hasher.start s.host.defaultBackend.1 c.algorithm).absorb s.host.platform c.absorbed, true⟩ := by
  rw [putConstructed, Host.construct, Host.newHasher_of_ne hc]
  exact find?_put_self _ _ _

theorem sees_defaultBackend (huse : s.usesDefault step = true) : s.Sees s.host.defaultBackend.1 step := by
  cases step with
  | defaultBackend => rfl
  | create name a backend =>
      cases backend with
      | some b => cases huse
      | none =>
          have ha : a ≠ .md5 := of_decide_eq_true huse
          simp only [Sees, Session.step, Host.newHasher_of_ne ha]
          exact find?_put_self _ _ _
  | get name a =>
      obtain ⟨c, hget, hc⟩ := (Option.any_eq_true _ _).mp huse
      refine ⟨c, hget, ?_⟩
      simp only [Session.step, hget]
      exact putConstructed_of_ne (of_decide_eq_true hc) name
  | getByName name algorithmName =>
      rw [usesDefault] at huse
      cases hget : s.registry.getByName algorithmName with
      | error e =>
          rw [hget] at huse
          cases huse
      | ok c =>
          rw [hget] at huse
          refine ⟨c, hget, ?_⟩
          simp only [Session.step, hget]
          exact putConstructed_of_ne (of_decide_eq_true huse) name
  | checksumOf a data =>
      have ha : a ≠ .md5 := of_decide_eq_true huse
      simp only [Sees, Session.step, Host.checksum, Host.newHasher_of_ne ha]
  | _ => cases huse

/-! ### What a step does to the host -/

/-- What a step can do to the host. Only a use of the default backend may tell of a choice. -/
inductive HostChange (s : Session) (step : Step) (after : Host) : Prop where
  | used (huse : s.usesDefault step = true) (hafter : after = s.host.defaultBackend.2)
  | forced {value : Option Bytes} (hstep : step = .setForcePortable value)
      (hafter : after = { s.host with forcePortable := value })
  | told (events : List Event) (huse : s.usesDefault step = false) (hforces : step.forces? = none)
      (hevents : ∀ e ∈ events, e.tellsChoice = false)
      (hafter : after = { s.host with log := s.host.log ++ events })

theorem hostChange_idle (huse : s.usesDefault step = false) (hforces : step.forces? = none) :
    s.HostChange step s.host := by
  refine .told [] huse hforces (fun e he => ?_) ?_
  · cases he
  · rw [List.append_nil]

theorem hostChange_tell {e : Event} (huse : s.usesDefault step = false) (hforces : step.forces? = none)
    (he : e.tellsChoice = false) : s.HostChange step (s.host.tell e) :=
  .told [e] huse hforces (List.forall_mem_singleton.mpr he) rfl

theorem hostChange_withHandle {name : String} {act : Handle → Answer × Session}
    (huse : s.usesDefault step = false) (hforces : step.forces? = none)
    (hact : ∀ h, s.HostChange step (act h).2.host) : s.HostChange step (s.withHandle name act).2.host := by
  rw [withHandle]
  cases s.find? name with
  | none => exact hostChange_idle huse hforces
  | some h => exact hact h

/-- A step that makes a hasher takes the default backend if it makes one of the SHA-2 kind. -/
theorem hostChange_newHasher {a : Algorithm} (huse : s.usesDefault step = decide (a ≠ .md5))
    (hforces : step.forces? = none) : s.HostChange step (s.host.newHasher a).2 := by
  by_cases ha : a = .md5
  · subst ha
    exact hostChange_idle huse hforces
  · rw [Host.newHasher_of_ne ha]
    exact .used (huse.trans (decide_eq_true ha)) rfl

theorem tellsChoice_refusal (h : Hasher) (e : StateError) : (h.refusal e).tellsChoice = false := by
  cases h with
  | md5 mid => rfl
  | sha2 variant backend mid => rfl

theorem hostChange_step (s : Session) (step : Step) : s.HostChange step (s.step step).2.host := by
  cases step with
  | setForcePortable value => exact .forced rfl rfl
  | defaultBackend => exact .used rfl rfl
  | checksumOf a data => exact hostChange_newHasher rfl rfl
  | create name a backend =>
      cases backend with
      | some b => exact hostChange_idle rfl rfl
      | none => exact hostChange_newHasher rfl rfl
  | get name a =>
      simp only [Session.step]
      cases hget : s.registry.get? a with
      | none => exact hostChange_idle (by rw [usesDefault, hget]; rfl) rfl
      | some c => exact hostChange_newHasher (by rw [usesDefault, hget]; rfl) rfl
  | getByName name algorithmName =>
      simp only [Session.step]
      cases hget : s.registry.getByName algorithmName with
      | error e => exact hostChange_idle (by rw [usesDefault, hget]) rfl
      | ok c => exact hostChange_newHasher (by rw [usesDefault, hget]) rfl
  | register a c => exact hostChange_tell rfl rfl rfl
  | defaultRegistry =>
      refine .told (Algorithm.all.map Registry.registration) rfl rfl ?_ ?_
      · decide
      · simp [Session.step, Host.defaultRegistry, Host.register, Host.tell, Algorithm.all]
  | restore name blob =>
      refine hostChange_withHandle rfl rfl fun h => ?_
      simp only [Host.restore]
      cases h.hasher.restore blob with
      | ok restored => exact hostChange_idle rfl rfl
      | error e => exact hostChange_tell rfl rfl (tellsChoice_refusal h.hasher e)
  | clone | boxedClone | write | writePieces | checksum | appendChecksum | finalizeReset | reset | save
  | describe => exact hostChange_withHandle rfl rfl fun _ => hostChange_idle rfl rfl
  | _ => exact hostChange_idle rfl rfl

/-! ### The choice -/

/-- The backend that has been chosen, if one has, and all that has been told of a choice. -/
def resolution (s : Session) : Option Backend × List Event :=
  (s.host.chosen, s.host.log.filter Event.tellsChoice)

theorem resolution_step_of_unused (huse : s.usesDefault step = false) :
    (s.step step).2.resolution = s.resolution := by
  cases hostChange_step s step with
  | used hused hafter => cases hused.symm.trans huse
  | forced hstep hafter => rw [resolution, hafter, resolution]
  | told events huse hforces hevents hafter =>
      have hnone := List.filter_eq_nil_iff.mpr fun e he => Bool.not_eq_true _ ▸ hevents e he
      rw [resolution, hafter, List.filter_append, hnone, List.append_nil, resolution]

theorem host_step_of_used (huse : s.usesDefault step = true) :
    (s.step step).2.host = s.host.defaultBackend.2 := by
  cases hostChange_step s step with
  | used huse hafter => exact hafter
  | forced hstep hafter =>
      subst hstep
      cases huse
  | told events hunused hforces hevents hafter => cases huse.symm.trans hunused

/-- Once a backend has been chosen, another use neither chooses nor tells of it again. -/
theorem resolution_step_of_some {b : Backend} (hchosen : s.host.chosen = some b) :
    (s.step step).2.resolution = s.resolution := by
  by_cases huse : s.usesDefault step = true
  · rw [resolution, host_step_of_used huse, Host.defaultBackend_of_some hchosen, resolution]
  · exact resolution_step_of_unused (Bool.eq_false_of_not_eq_true huse)

theorem resolution_step_of_none (hchosen : s.host.chosen = none) (huse : s.usesDefault step = true) :
    (s.step step).2.resolution
      = (some s.host.detect, s.resolution.2 ++ [Host.choice s.host.detect]) := by
  rw [resolution, host_step_of_used huse, Host.defaultBackend_of_none hchosen, List.filter_append]
  rfl

theorem chosen_of_resolution {t : Session} (h : t.resolution = s.resolution) :
    t.host.chosen = s.host.chosen :=
  congrArg Prod.fst h

theorem chosen_step {b : Backend} (hchosen : s.host.chosen = some b) :
    (s.step step).2.host.chosen = some b :=
  (chosen_of_resolution (resolution_step_of_some hchosen)).trans hchosen

theorem resolution_run_of_some {b : Backend} (hchosen : s.host.chosen = some b) (steps : List Step) :
    (s.run steps).2.resolution = s.resolution := by
  induction steps generalizing s with
  | nil => rfl
  | cons first rest ih => exact (ih (chosen_step hchosen)).trans (resolution_step_of_some hchosen)

/-! ### The variable -/

theorem forcePortable_step (s : Session) (step : Step) :
    (s.step step).2.host.forcePortable = step.forces?.getD s.host.forcePortable := by
  cases hostChange_step s step with
  | used huse hafter =>
      have hforces : step.forces? = none := by
        cases step with
        | setForcePortable value => cases huse
        | _ => rfl
      rw [hafter, hforces, Host.defaultBackend]
      cases s.host.chosen with
      | none => rfl
      | some b => rfl
  | forced hstep hafter =>
      subst hstep
      rw [hafter]
      rfl
  | told events huse hforces hevents hafter =>
      rw [hafter, hforces]
      rfl

theorem environment_cons (s : Session) (first : Step) (rest : List Step) :
    environment s.host.forcePortable (first :: rest)
      = environment (s.step first).2.host.forcePortable rest := by
  rw [forcePortable_step]
  rfl

theorem forcePortable_run (s : Session) (steps : List Step) :
    (s.run steps).2.host.forcePortable = environment s.host.forcePortable steps := by
  induction steps generalizing s with
  | nil => rfl
  | cons first rest ih => exact (ih (s.step first).2).trans (s.environment_cons first rest).symm

/-- Detection answers by the variable as the history has left it, and does nothing. -/
theorem step_detect_run (s : Session) (steps : List Step) :
    let t := (s.run steps).2
    t.step .detect = (.backend (s.host.platform.detect (environment s.host.forcePortable steps)), t) := by
  intro t
  rw [← forcePortable_run, ← s.run_platform steps]
  rfl

/-! ### The first use -/

/-- The steps of a run before the first that uses the default backend. -/
def leadIn (s : Session) : List Step → List Step
  | [] => []
  | first :: rest => if s.usesDefault first then [] else first :: (s.step first).2.leadIn rest

/-- The backend that suits the platform when the lead-in of a run is over. -/
def settled (s : Session) (steps : List Step) : Backend :=
  s.host.platform.detect (environment s.host.forcePortable (s.leadIn steps))

variable {first use : Step} {before after steps : List Step}

theorem settled_cons_of_used (huse : s.usesDefault first = true) :
    s.settled (first :: after) = s.host.detect := by
  rw [settled, leadIn, if_pos huse]
  rfl

theorem settled_cons_of_unused (huse : ¬s.usesDefault first = true) :
    s.settled (first :: after) = (s.step first).2.settled after := by
  rw [settled, leadIn, if_neg huse, environment_cons, settled, step_platform]

/-- In a run that starts before any choice all uses take the same backend. -/
theorem defaultBackend_run (hnone : s.host.chosen = none) (huse : (s.run before).2.usesDefault use = true) :
    (s.run before).2.host.defaultBackend.1 = s.settled (before ++ use :: after) := by
  induction before generalizing s with
  | nil =>
      have hsettled : s.settled (use :: after) = s.host.detect := settled_cons_of_used huse
      rw [List.nil_append, hsettled]
      exact congrArg Prod.fst (Host.defaultBackend_of_none hnone)
  | cons first rest ih =>
      rw [List.cons_append]
      -- Either the first step chooses, and its choice stays, or the first use comes later.
      by_cases hfirst : s.usesDefault first = true
      · have hchosen : (s.step first).2.host.chosen = some s.host.detect :=
          congrArg Prod.fst (resolution_step_of_none hnone hfirst)
        have hlast := (chosen_of_resolution (resolution_run_of_some hchosen rest)).trans hchosen
        rw [settled_cons_of_used hfirst]
        exact congrArg Prod.fst (Host.defaultBackend_of_some hlast)
      · have hunused := resolution_step_of_unused (Bool.eq_false_of_not_eq_true hfirst)
        rw [settled_cons_of_unused hfirst]
        exact ih ((chosen_of_resolution hunused).trans hnone) huse

theorem sees_settled (hnone : s.host.chosen = none) (huse : (s.run before).2.usesDefault use = true) :
    (s.run before).2.Sees (s.settled (before ++ use :: after)) use :=
  defaultBackend_run hnone huse ▸ sees_defaultBackend huse

/-- The choice is made, and told of, when a run goes past its lead-in, and at no other time. -/
theorem resolution_run (hnone : s.host.chosen = none) (hbefore : before <+: steps) :
    (s.run before).2.resolution
      = if (s.leadIn steps).length < before.length then
          (some (s.settled steps), s.resolution.2 ++ [Host.choice (s.settled steps)])
        else s.resolution := by
  induction before generalizing s steps with
  | nil => exact (if_neg (Nat.not_lt_zero _)).symm
  | cons first rest ih =>
      obtain ⟨after, rfl⟩ := hbefore
      rw [List.cons_append]
      by_cases hfirst : s.usesDefault first = true
      · have hused := resolution_step_of_none hnone hfirst
        have hchosen : (s.step first).2.host.chosen = some s.host.detect := congrArg Prod.fst hused
        rw [leadIn, if_pos hfirst, List.length_nil, List.length_cons, if_pos (Nat.succ_pos _),
          settled_cons_of_used hfirst]
        exact (resolution_run_of_some hchosen rest).trans hused
      · have hunused := resolution_step_of_unused (Bool.eq_false_of_not_eq_true hfirst)
        have hrest := ih ((chosen_of_resolution hunused).trans hnone) (rest.prefix_append after)
        rw [leadIn, if_neg hfirst, settled_cons_of_unused hfirst, List.length_cons, List.length_cons,
          ← hunused]
        simp only [Nat.succ_lt_succ_iff]
        exact hrest

/-! ### Steps that do without a choice -/

/-- The steps that need no default backend, whatever has been chosen: detection, making a hasher on a backend
that is named, all that has to do with MD5, and all that is done with a hasher that is there. -/
inductive Aside (s : Session) : Step → Prop where
  | detect : s.Aside .detect
  | named (name : String) (a : Algorithm) (b : Backend) : s.Aside (.create name a (some b))
  | md5 (name : String) : s.Aside (.create name .md5 none)
  | md5Of (data : Bytes) : s.Aside (.checksumOf .md5 data)
  | md5Get {a : Algorithm} {c : Constructor} (name : String) (hget : s.registry.get? a = some c)
      (hmd5 : c.algorithm = .md5) : s.Aside (.get name a)
  | md5GetByName {algorithmName : String} {c : Constructor} (name : String)
      (hget : s.registry.getByName algorithmName = .ok c) (hmd5 : c.algorithm = .md5) :
      s.Aside (.getByName name algorithmName)
  | existing {name : String} {step : Step} (hacts : step.actsOn? = some name) : s.Aside step

theorem usesDefault_of_aside (h : s.Aside step) : s.usesDefault step = false := by
  cases h with
  | md5Get name hget hmd5 =>
      rw [usesDefault, hget, Option.any_some, hmd5]
      rfl
  | md5GetByName name hget hmd5 =>
      rw [usesDefault, hget]
      exact decide_eq_false (not_not.mpr hmd5)
  | existing hacts =>
      cases step with
      | clone | boxedClone | write | writePieces | checksum | appendChecksum | finalizeReset | reset | save
      | restore | describe => rfl
      | _ => cases hacts
  | _ => rfl

/-! ### The variable after the choice -/

def under (value : Option Bytes) (s : Session) : Session := s.onHost (.under value)

/-- The steps with the answers that a run gives to them. -/
def answers (s : Session) (steps : List Step) : List (Step × Answer) := steps.zip (s.run steps).1

theorem answers_cons (s : Session) (first : Step) (rest : List Step) :
    s.answers (first :: rest) = (first, (s.step first).1) :: (s.step first).2.answers rest := rfl

/-- Forcing changes the value of the variable, and detection nothing. -/
theorem step_of_not_isOrdinary (s : Session) (h : ¬step.isOrdinary = true) :
    ∃ value, (s.step step).2 = s.under value := by
  cases step with
  | setForcePortable value => exact ⟨value, rfl⟩
  | detect => exact ⟨s.host.forcePortable, rfl⟩
  | _ => exact absurd rfl h

variable {b : Backend}

theorem step_under (hchosen : s.host.chosen = some b) (hordinary : step.isOrdinary = true)
    (value : Option Bytes) : (s.under value).step step = (s.step step).map id (under value) :=
  step_exchange (Host.exchange_under hchosen value) hordinary

theorem run_under (hchosen : s.host.chosen = some b) (hordinary : ∀ step ∈ steps, step.isOrdinary = true)
    (value : Option Bytes) : (s.under value).run steps = (s.run steps).map id (under value) := by
  induction steps generalizing s with
  | nil => rfl
  | cons first rest ih =>
      obtain ⟨hfirst, hrest⟩ := List.forall_mem_cons.mp hordinary
      simp only [run, step_under hchosen hfirst, Prod.map_fst, Prod.map_snd, id,
        ih (chosen_step hchosen) hrest]
      rfl

/-- When a backend has been chosen, all but detection goes as it goes without any forcing, except that the
variable is left as it was last set. -/
theorem run_ordinary (hchosen : s.host.chosen = some b) (steps : List Step) :
    let ordinary := steps.filter Step.isOrdinary
    s.answers ordinary = (s.answers steps).filter (·.1.isOrdinary) ∧
      (s.run steps).2 = (s.run ordinary).2.under (environment s.host.forcePortable steps) := by
  induction steps generalizing s with
  | nil => exact ⟨rfl, rfl⟩
  | cons first rest ih =>
      intro ordinary
      have hnext : (s.step first).2.host.chosen = some b := chosen_step hchosen
      obtain ⟨hanswers, hlast⟩ := ih hnext
      rw [answers_cons, List.filter_cons, environment_cons]
      by_cases hfirst : first.isOrdinary = true
      · have hordinary : ordinary = first :: rest.filter Step.isOrdinary := List.filter_cons_of_pos hfirst
        rw [hordinary, answers_cons, if_pos hfirst, hanswers]
        exact ⟨rfl, hlast⟩
      · have hordinary : ordinary = rest.filter Step.isOrdinary := List.filter_cons_of_neg hfirst
        have hall : ∀ step ∈ ordinary, step.isOrdinary = true := fun step hstep =>
          (List.mem_filter.mp hstep).2
        -- The step only gives the variable another value, which the ordinary steps behind it do not read.
        obtain ⟨value, hvalue⟩ := step_of_not_isOrdinary s hfirst
        have hunder := run_under hchosen hall value
        have hrun : (s.run (first :: rest)).2 = ((s.under value).run rest).2 := by
          rw [← hvalue]
          rfl
        rw [← hordinary, hvalue] at hanswers hlast
        rw [answers, hunder] at hanswers
        rw [hunder] at hlast
        rw [if_neg hfirst, hvalue]
        exact ⟨hanswers, hrun.trans hlast⟩

/-- In a process the first step that needs a default backend chooses it for good, by the value that the forcing
variable has then, and tells of it. All uses see that backend; nothing but a use makes the choice or tells of
it, least of all detection, MD5 and hashers on a named backend. What is done to the variable afterwards shows in
nothing but detection, which answers at any time by the value of that time. -/
theorem backend_is_chosen_once (p : Platform) (value : Option Bytes) (steps : List Step) :
    let s := start (.start p value)
    let b := p.detect (environment value (s.leadIn steps))
    (∀ before use after, steps = before ++ use :: after →
      (s.run before).2.usesDefault use = true → (s.run before).2.Sees b use) ∧
    (∀ before, before <+: steps →
      let t := (s.run before).2
      let now := environment value before
      t.resolution = (if (s.leadIn steps).length < before.length then (some b, [Host.choice b])
        else (none, [])) ∧
      (∀ step, t.Aside step → (t.step step).2.resolution = t.resolution) ∧
      t.step .detect = (.backend (p.detect now), t) ∧
      (Flag.isSet now = true → p.detect now = .portable)) ∧
    (∀ before after, steps = before ++ after → (s.leadIn steps).length < before.length →
      let t := (s.run before).2
      let ordinary := after.filter Step.isOrdinary
      t.answers ordinary = (t.answers after).filter (·.1.isOrdinary) ∧
        (t.run after).2 = (t.run ordinary).2.under (environment value steps)) := by
  intro s b
  refine ⟨?_, ?_, ?_⟩
  · rintro before use after rfl huse
    exact sees_settled rfl huse
  · intro before hbefore t now
    refine ⟨resolution_run rfl hbefore, ?_, step_detect_run s before, ?_⟩
    · exact fun step haside => resolution_step_of_unused (usesDefault_of_aside haside)
    · exact fun hset => if_pos hset
  · rintro before after rfl hpast t ordinary
    have hresolution := resolution_run (s := s) rfl (before.prefix_append after)
    rw [if_pos hpast] at hresolution
    have hchosen : t.host.chosen = some b := congrArg Prod.fst hresolution
    obtain ⟨hanswers, hlast⟩ := run_ordinary hchosen after
    rw [forcePortable_run s before] at hlast
    rw [environment, List.foldl_append]
    exact ⟨hanswers, hlast⟩

/-- Forced before the first use, which is a checksum of one byte string, and no longer afterwards. -/
theorem backend_is_chosen_once_forced :
    let p : Platform := ⟨true, Sha256.Window.run⟩
    let off : Bytes := [0x6f, 0x66, 0x66]
    let s := start (.start p (some off))
    let leadIn : List Step := [.detect, .create "m" .md5 none, .create "n" .sha256 (some .accelerated),
      .setForcePortable (some [0x20, 0x59, 0x65, 0x73])]
    let first : List Step := leadIn ++ [.checksumOf .sha224 [1]]
    let between : List Step := [.setForcePortable none, .detect, .defaultRegistry]
    let t := (s.run (first ++ between)).2
    (s.run leadIn).2.resolution = (none, []) ∧
      ((s.run leadIn).2.step .detect).1 = .backend .portable ∧
      t.resolution = (some .portable, [Host.choice .portable]) ∧
      (t.step (.get "m" .md5)).2.resolution = t.resolution ∧
      (t.step .detect).1 = .backend .accelerated ∧
      t.Sees .portable (.get "k" .sha256) ∧
      (s.run first).2.answers [.defaultRegistry, .get "k" .sha256]
        = ((s.run first).2.answers (between ++ [.get "k" .sha256])).filter (·.1.isOrdinary) := by
  intro p off s leadIn first between t
  let steps := first ++ between ++ [.get "k" .sha256]
  obtain ⟨hsees, halways, hafter⟩ := backend_is_chosen_once p (some off) steps
  have hlead : s.leadIn steps = leadIn := rfl
  have hbetween : first ++ between <+: steps := List.prefix_append _ _
  obtain ⟨hbefore, -, hforced, hportable⟩ := halways leadIn ⟨_, rfl⟩
  obtain ⟨hchosen, haside, hfree, -⟩ := halways (first ++ between) hbetween
  have hnow : p.detect (environment (some off) leadIn) = .portable := hportable (by decide +kernel)
  have hmd5 : t.Aside (.get "m" .md5) := .md5Get "m" (c := .fresh .md5) rfl rfl
  rw [hlead, hnow] at hchosen hsees
  rw [hnow] at hforced
  refine ⟨hbefore, congrArg Prod.fst hforced, hchosen, haside _ hmd5, congrArg Prod.fst hfree, ?_, ?_⟩
  · exact hsees (first ++ between) (.get "k" .sha256) [] rfl rfl
  · exact (hafter first (between ++ [.get "k" .sha256]) rfl (by decide)).1

end Session

end Checksum
