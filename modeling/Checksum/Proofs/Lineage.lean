import Checksum.Session
import Checksum.Proofs.Uniform

/-!
# Where the hashers of a session come from

A step leaves the hashers of a session alone, or writes to one of them, resets or restores it, or makes
one under a name, which is then a fresh one that may have absorbed something, or the copy of another
(`Session.change_step`). So what holds of fresh hashers, and stays under writing, resetting and restoring,
holds of every hasher that a run ever comes to (`Session.run_invariant`); and what these three leave alone
stays with a name until another hasher is made under it (`Session.run_kept`).
-/

namespace Checksum

/-- What may become of a hasher in one step. -/
inductive Hasher.Later (p : Platform) (h : Hasher) : Hasher → Prop where
  | same : Later p h h
  | written (pieces : List Bytes) : Later p h (h.writeAll p pieces).1
  | reset : Later p h h.reset
  | restored {blob : Bytes} {restored : Hasher} (hrestored : h.restore blob = .ok restored) :
      Later p h restored

/-- Whatever becomes of a hasher, its algorithm and its backend stay. -/
theorem Hasher.Later.exists_of {p : Platform} {b : Backend} {a : Algorithm} {m : Midstate a.words}
    {later : Hasher} (hlater : (of b a m).Later p later) : ∃ l, later = of b a l := by
  cases hlater with
  | same => exact ⟨m, rfl⟩
  | written pieces => exact ⟨_, congrArg Prod.fst (writeAll_of p b a m pieces)⟩
  | reset => exact ⟨_, (reset_of b a m).trans (start_eq_of b a)⟩
  | restored hrestored =>
      obtain ⟨l, -, rfl⟩ := restore_eq_ok_iff.mp hrestored
      exact ⟨l, rfl⟩

/-- The name under which a step makes a hasher. -/
def Step.makes? : Step → Option String
  | .get name _ => some name
  | .getByName name _ => some name
  | .create name _ _ => some name
  | .clone name _ => some name
  | .boxedClone name _ => some name
  | _ => none

namespace Session

/-- The hashers that a step can make. -/
inductive Made (s : Session) : Hasher → Prop where
  | started (b : Backend) (a : Algorithm) (pieces : List Bytes) :
      Made s ((Hasher.start b a).writeAll s.host.platform pieces).1
  | copied {source : String} {before : Handle} (hbefore : s.find? source = some before) :
      Made s before.hasher

/-- What a step can do to the hashers. -/
inductive Change (s : Session) (step : Step) (after : Session) : Prop where
  | idle (hafter : after.handles = s.handles)
  | updated {name : String} {before : Handle} {hasher : Hasher} (hbefore : s.find? name = some before)
      (hlater : before.hasher.Later s.host.platform hasher)
      (hafter : after.handles = (s.update name before hasher).handles)
  | made {name : String} {h : Handle} (hmakes : step.makes? = some name) (hmade : s.Made h.hasher)
      (hafter : after.handles = (s.put name h).handles)

variable {s : Session} {step : Step}

theorem find?_of_handles {t : Session} (h : s.handles = t.handles) (name : String) :
    s.find? name = t.find? name := by
  rw [find?, h, find?]

/-- A step on a hasher that is not there leaves all of them alone. -/
theorem change_withHandle {name : String} {act : Handle → Answer × Session}
    (hact : ∀ before, s.find? name = some before → s.Change step (act before).2) :
    s.Change step (s.withHandle name act).2 := by
  rw [withHandle]
  cases hbefore : s.find? name with
  | none => exact .idle rfl
  | some before => exact hact before hbefore

theorem made_newHasher (a : Algorithm) : s.Made (s.host.newHasher a).1 := by
  cases a with
  | md5 => exact .started .portable .md5 []
  | sha224 => exact .started s.host.defaultBackend.1 .sha224 []
  | sha256 => exact .started s.host.defaultBackend.1 .sha256 []

theorem made_construct (c : Constructor) : s.Made (s.host.construct c).1 := by
  obtain ⟨a, absorbed⟩ := c
  cases a with
  | md5 => exact .started .portable .md5 [absorbed]
  | sha224 => exact .started s.host.defaultBackend.1 .sha224 [absorbed]
  | sha256 => exact .started s.host.defaultBackend.1 .sha256 [absorbed]

theorem change_putConstructed {name : String} {c : Constructor} (hmakes : step.makes? = some name) :
    s.Change step (s.putConstructed name c).2 :=
  .made (h := ⟨(s.host.construct c).1, true⟩) hmakes (made_construct c) rfl

theorem change_step (s : Session) (step : Step) : s.Change step (s.step step).2 := by
  cases step with
  | get name a =>
      simp only [Session.step]
      cases s.registry.get? a with
      | none => exact .idle rfl
      | some c => exact change_putConstructed rfl
  | getByName name algorithmName =>
      simp only [Session.step]
      cases s.registry.getByName algorithmName with
      | error e => exact .idle rfl
      | ok c => exact change_putConstructed rfl
  | create name a backend =>
      cases backend with
      | some b => exact .made (h := ⟨.start b a, false⟩) rfl (.started b a []) rfl
      | none => exact .made (h := ⟨(s.host.newHasher a).1, false⟩) rfl (made_newHasher a) rfl
  | clone name source =>
      apply change_withHandle
      intro before hbefore
      exact .made (h := before) rfl (.copied hbefore) rfl
  | boxedClone name source =>
      apply change_withHandle
      intro before hbefore
      have hcopied : s.Made before.hasher := .copied hbefore
      exact .made (h := { before with boxed := true }) rfl hcopied rfl
  | write name interface data =>
      apply change_withHandle
      intro before hbefore
      exact .updated hbefore (.written _) rfl
  | writePieces name interface pieces =>
      apply change_withHandle
      intro before hbefore
      exact .updated hbefore (.written _) rfl
  | finalizeReset name =>
      apply change_withHandle
      intro before hbefore
      exact .updated hbefore .reset rfl
  | reset name =>
      apply change_withHandle
      intro before hbefore
      exact .updated hbefore .reset rfl
  | restore name blob =>
      apply change_withHandle
      intro before hbefore
      cases hrestored : before.hasher.restore blob with
      | error e =>
          simp only [Host.restore, hrestored]
          exact .idle rfl
      | ok restored =>
          simp only [Host.restore, hrestored]
          exact .updated hbefore (.restored hrestored) rfl
  | checksum name => exact change_withHandle fun before hbefore => .idle rfl
  | appendChecksum name data => exact change_withHandle fun before hbefore => .idle rfl
  | save name => exact change_withHandle fun before hbefore => .idle rfl
  | describe name => exact change_withHandle fun before hbefore => .idle rfl
  | _ => exact .idle rfl

/-! ### Invariants -/

variable {P : Hasher → Prop}

theorem made_invariant (hstart : ∀ b a, P (.start b a))
    (hlater : ∀ p h h', P h → Hasher.Later p h h' → P h')
    (hs : ∀ name h, s.find? name = some h → P h.hasher) {h : Hasher} (hmade : s.Made h) : P h := by
  cases hmade with
  | started b a pieces => exact hlater _ _ _ (hstart b a) (.written pieces)
  | copied hbefore => exact hs _ _ hbefore

theorem step_invariant (hstart : ∀ b a, P (.start b a))
    (hlater : ∀ p h h', P h → Hasher.Later p h h' → P h')
    (hs : ∀ name h, s.find? name = some h → P h.hasher) :
    ∀ name h, (s.step step).2.find? name = some h → P h.hasher := by
  intro name h hfind
  -- Under every name but one there is what was there before.
  have hput {name' : String} {put : Handle} (hafter : (s.step step).2.handles = (s.put name' put).handles)
      (hP : P put.hasher) : P h.hasher := by
    rw [find?_of_handles hafter] at hfind
    by_cases hname : name = name'
    · subst hname
      rw [find?_put_self] at hfind
      rwa [← Option.some.inj hfind]
    · rw [find?_put_of_ne _ _ hname] at hfind
      exact hs name h hfind
  cases s.change_step step with
  | idle hafter =>
      rw [find?_of_handles hafter] at hfind
      exact hs name h hfind
  | updated hbefore hl hafter => exact hput hafter (hlater _ _ _ (hs _ _ hbefore) hl)
  | made hmakes hmade hafter => exact hput hafter (made_invariant hstart hlater hs hmade)

/-- What holds of fresh hashers and stays is never lost in a run. -/
theorem run_invariant (hstart : ∀ b a, P (.start b a))
    (hlater : ∀ p h h', P h → Hasher.Later p h h' → P h')
    (hs : ∀ name h, s.find? name = some h → P h.hasher) (steps : List Step) :
    ∀ name h, (s.run steps).2.find? name = some h → P h.hasher := by
  induction steps generalizing s with
  | nil => exact hs
  | cons first rest ih => exact ih (step_invariant hstart hlater hs)

/-! ### What stays with a name -/

variable {name : String} {h : Handle}

theorem step_kept (hfind : s.find? name = some h) (hmakes : step.makes? ≠ some name) :
    ∃ h', (s.step step).2.find? name = some h' ∧ h.hasher.Later s.host.platform h'.hasher := by
  cases s.change_step step with
  | idle hafter => exact ⟨h, (find?_of_handles hafter name).trans hfind, .same⟩
  | @updated name' before hasher hbefore hlater hafter =>
      rw [find?_of_handles hafter]
      by_cases hname : name = name'
      · subst hname
        obtain rfl := Option.some.inj (hbefore.symm.trans hfind)
        exact ⟨_, find?_put_self _ _ _, hlater⟩
      · exact ⟨h, (find?_put_of_ne _ _ hname).trans hfind, .same⟩
  | @made name' h' hmakes' hmade hafter =>
      have hname : name ≠ name' := by
        rintro rfl
        exact hmakes hmakes'
      rw [find?_of_handles hafter]
      exact ⟨h, (find?_put_of_ne _ _ hname).trans hfind, .same⟩

/-- What writing, resetting and restoring leave alone stays as long as no other hasher takes the name. -/
theorem run_kept {α : Type} {f : Hasher → α} (hf : ∀ p h h', Hasher.Later p h h' → f h' = f h)
    {steps : List Step} (hfind : s.find? name = some h)
    (hmakes : ∀ step ∈ steps, step.makes? ≠ some name) :
    ∃ h', (s.run steps).2.find? name = some h' ∧ f h'.hasher = f h.hasher := by
  induction steps generalizing s h with
  | nil => exact ⟨h, hfind, rfl⟩
  | cons first rest ih =>
      obtain ⟨hfirst, hrest⟩ := List.forall_mem_cons.mp hmakes
      obtain ⟨between, hbetween, hlater⟩ := step_kept hfind hfirst
      obtain ⟨last, hlast, hsame⟩ := ih hbetween hrest
      exact ⟨last, hlast, hsame.trans (hf _ _ _ hlater)⟩

end Session

end Checksum
