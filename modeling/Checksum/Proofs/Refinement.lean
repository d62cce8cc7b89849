import Checksum.Proofs.Ideal

/-!
# Sessions keep to the messages

Every step of a session is the step of the ideal session that it stands for, with the same answer
(`step_session`), and so is restoring a state that was saved after a message (`resume_session`). This
needs a sound platform, and no step changes the platform. By induction a whole run of a session from
its start is the run of the ideal one, whatever names the hashers have, in whatever order they are
written to, copied, reset and restored from one another's states.
-/

namespace Checksum

/-! ### Copying in portions -/

namespace Bytes

theorem flatten_cutOnce (sizes : List Nat) (bs : Bytes) :
    (cutOnce sizes bs).1.flatten ++ (cutOnce sizes bs).2 = bs := by
  induction sizes generalizing bs with
  | nil => rfl
  | cons size sizes ih =>
      by_cases hempty : bs = []
      · subst hempty
        rfl
      · have hleft : ¬bs.isEmpty = true := fun h => hempty (List.isEmpty_iff.mp h)
        simp only [cutOnce, if_neg hleft]
        rw [List.flatten_cons, List.append_assoc, ih, List.take_append_drop]

theorem flatten_cut_go {sizes : List Nat} (h : ∃ size ∈ sizes, 0 < size) (done : List Bytes)
    (bs : Bytes) : (cut.go sizes h done bs).flatten = done.reverse.flatten ++ bs := by
  fun_induction cut.go sizes h done bs with
  | case1 done => rw [List.append_nil]
  | case2 done bs hbs pass ih =>
      rw [ih, List.reverse_append, List.reverse_reverse, List.flatten_append, List.append_assoc,
        flatten_cutOnce]

/-- However the portions are cut, they are the whole again. -/
theorem flatten_cut (sizes : List Nat) (bs : Bytes) : (cut sizes bs).flatten = bs := by
  by_cases hsizes : ∃ size ∈ sizes, 0 < size
  · rw [cut, dif_pos hsizes]
    exact flatten_cut_go hsizes [] bs
  · rw [cut, dif_neg hsizes]
    by_cases hempty : bs = []
    · subst hempty
      rfl
    · rw [if_neg fun h => hempty (List.isEmpty_iff.mp h), List.flatten_singleton]

end Bytes

theorem Interface.flatten_portions (i : Interface) (data : Bytes) : (i.portions data).flatten = data := by
  cases i with
  | copying sizes => exact Bytes.flatten_cut sizes data
  | _ => exact List.flatten_singleton

theorem Interface.flatten_flatMap_portions (i : Interface) (pieces : List Bytes) :
    (pieces.flatMap i.portions).flatten = pieces.flatten := by
  induction pieces with
  | nil => rfl
  | cons piece pieces ih =>
      rw [List.flatMap_cons, List.flatten_append, i.flatten_portions, ih, List.flatten_cons]

/-! ### Hashers that have read a message -/

namespace Hasher

variable (b : Backend) (a : Algorithm) (message : Bytes)

theorem algorithm_fresh : (fresh b a message).algorithm = a := algorithm_of b a _

theorem backend?_fresh : (fresh b a message).backend? = if a = .md5 then none else some b := by
  cases a <;> rfl

theorem refusal_fresh (e : StateError) : (fresh b a message).refusal e = a.refusal e := by
  cases a <;> rfl

theorem reset_fresh : (fresh b a message).reset = fresh b a [] := by
  rw [fresh, reset_of, fresh_nil]

theorem save_fresh : (fresh b a message).save = a.saved message := by
  rw [fresh, save_reading, UInt64.toNat_ofNat', Algorithm.saved]

/-- A state saved after a message is that of a hasher that has read the message. -/
theorem restore_fresh (saved : Bytes) :
    (fresh b a message).restore (a.saved saved) = .ok (fresh b a saved) := by
  have haligned : saved.length % 64 = (UInt64.ofNat saved.length).toNat % 64 := by
    rw [UInt64.toNat_ofNat']
    omega
  rw [← save_fresh b, fresh, fresh, restore_of, save_of, Midstate.decode_encode_reading _ _ _ haligned]
  rfl

theorem restore_fresh_of_ne {other : Algorithm} (h : other ≠ a) (saved : Bytes) :
    (fresh b a message).restore (other.saved saved) = .error .identifier := by
  rw [← save_fresh b]
  apply restore_save_of_ne
  rwa [algorithm_fresh, algorithm_fresh]

end Hasher

namespace Ideal

/-! ### Names -/

variable {i : Ideal} {name : String}

theorem find?_session (i : Ideal) (name : String) :
    i.session.find? name = (i.find? name).map Record.handle := by
  rw [Session.find?, session, find?, List.find?_map, Option.map_map, Option.map_map]
  rfl

theorem session_put (i : Ideal) (name : String) (r : Record) :
    (i.put name r).session = i.session.put name r.handle := by
  simp only [session, put, Session.put, List.map_cons, List.filter_map]
  rfl

/-- A step that acts on a hasher, where its answer and what it leaves are those for the record. -/
theorem withHandle_session {act : Handle → Answer × Session} {act' : Record → Answer × Ideal}
    (h : ∀ r, act r.handle = (act' r).map id session) :
    i.session.withHandle name act = (i.withRecord name act').map id session := by
  rw [Session.withHandle, find?_session, withRecord]
  cases i.find? name with
  | none => rfl
  | some r => exact h r

theorem putConstructed_session (hsound : i.host.platform.Sound) (name : String) (c : Constructor) :
    i.session.putConstructed name c = (i.putConstructed name c).map id session := by
  have hconstruct := Host.construct_eq (hsound.serves (i.host.backendFor c.algorithm).1 c.algorithm)
  have hhost : i.session.host = i.host := rfl
  simp only [Session.putConstructed, putConstructed, hhost, hconstruct, Hasher.algorithm_fresh,
    Prod.map_apply, id, session_put]
  rfl

/-! ### One step -/

theorem describe_handle (r : Record) : r.handle.describe = r.describe := by
  simp only [Handle.describe, Record.handle, Record.describe, Hasher.algorithm_fresh,
    Hasher.backend?_fresh]

theorem reset_handle (r : Record) : r.handle.hasher.reset = r.reset.handle.hasher :=
  Hasher.reset_fresh r.backend r.algorithm r.message

theorem writeAll_handle (hsound : i.host.platform.Sound) (r : Record) (pieces : List Bytes) :
    r.handle.hasher.writeAll i.host.platform pieces
      = ((r.append pieces.flatten).handle.hasher, pieces.flatten.length) :=
  Hasher.writeAll_fresh (hsound.serves r.backend r.algorithm) r.message pieces

theorem checksum_handle (hsound : i.host.platform.Sound) (r : Record) :
    r.handle.hasher.checksum i.host.platform = r.algorithm.hash r.message :=
  Hasher.checksum_fresh (hsound.serves r.backend r.algorithm) r.message

theorem step_session (hsound : i.host.platform.Sound) (s : Step) (h : s.isRestore = false) :
    i.session.step s = (i.step s h).map id session := by
  have hhost : i.session.host = i.host := rfl
  have hregistry : i.session.registry = i.registry := rfl
  -- Host and registry are the same on both sides, so only what makes or touches a hasher takes a proof.
  cases s with
  | clearRegistry => rfl
  | defaultRegistry => rfl
  | register a c => rfl
  | algorithms => rfl
  | isAvailable a => rfl
  | get name a =>
      simp only [Session.step, step, hregistry]
      cases i.registry.get? a with
      | none => rfl
      | some c => exact putConstructed_session hsound name c
  | getByName name algorithmName =>
      simp only [Session.step, step, hregistry]
      cases i.registry.getByName algorithmName with
      | error e => rfl
      | ok c => exact putConstructed_session hsound name c
  | create name a backend =>
      cases backend with
      | none =>
          simp only [Session.step, step, hhost, Host.newHasher_eq, Prod.map_apply, id, session_put]
          rfl
      | some b =>
          simp only [Session.step, step, ← Hasher.fresh_nil, Prod.map_apply, id, session_put]
          rfl
  | clone name source =>
      apply withHandle_session
      intro r
      rw [Prod.map_apply, session_put]
      rfl
  | boxedClone name source =>
      apply withHandle_session
      intro r
      rw [Prod.map_apply, session_put]
      rfl
  | write name interface data =>
      apply withHandle_session
      intro r
      rw [Prod.map_apply, session_put, hhost, writeAll_handle hsound, interface.flatten_portions]
      rfl
  | writePieces name interface pieces =>
      apply withHandle_session
      intro r
      simp only [Prod.map_apply, session_put, hhost, writeAll_handle hsound,
        interface.flatten_flatMap_portions]
      rfl
  | checksum name =>
      apply withHandle_session
      intro r
      rw [hhost, checksum_handle hsound]
      rfl
  | appendChecksum name data =>
      apply withHandle_session
      intro r
      rw [Hasher.appendChecksum, hhost, checksum_handle hsound]
      rfl
  | finalizeReset name =>
      apply withHandle_session
      intro r
      rw [Prod.map_apply, session_put, hhost, checksum_handle hsound, reset_handle]
      rfl
  | reset name =>
      apply withHandle_session
      intro r
      rw [Prod.map_apply, session_put, reset_handle]
      rfl
  | save name =>
      apply withHandle_session
      intro r
      rw [Record.handle, Hasher.save_fresh]
      rfl
  | restore name blob => cases h
  | describe name =>
      apply withHandle_session
      intro r
      rw [describe_handle]
      rfl
  | setForcePortable value => rfl
  | detect => rfl
  | defaultBackend => rfl
  | checksumOf a data =>
      have hchecksum := Host.checksum_eq (hsound.serves (i.host.backendFor a).1 a) data
      simp only [Session.step, step, hhost, hchecksum]
      rfl

/-- A state that was saved after a message is as good as the message. -/
theorem resume_session (i : Ideal) (name : String) (a : Algorithm) (message : Bytes) :
    i.session.step (.restore name (a.saved message)) = (i.resume name a message).map id session := by
  apply withHandle_session
  intro r
  by_cases halgorithm : r.algorithm = a
  · subst halgorithm
    have hrestore : i.session.host.restore r.handle.hasher (r.algorithm.saved message)
        = (.ok ({ r with message } : Record).handle.hasher, i.host) := by
      rw [Host.restore, Record.handle, Hasher.restore_fresh]
      rfl
    rw [hrestore, if_pos rfl, Prod.map_apply, session_put]
    rfl
  · have hrestore : i.session.host.restore r.handle.hasher (a.saved message)
        = (.error .identifier, i.host.tell (r.algorithm.refusal .identifier)) := by
      rw [Host.restore, Record.handle, Hasher.restore_fresh_of_ne _ _ _ (Ne.symm halgorithm),
        ← Hasher.refusal_fresh r.backend r.algorithm r.message]
      rfl
    rw [hrestore, if_neg halgorithm]
    rfl

end Ideal

/-! ### The platform stays -/

namespace Host

theorem defaultBackend_platform (host : Host) : host.defaultBackend.2.platform = host.platform := by
  rw [defaultBackend]
  cases host.chosen with
  | none => rfl
  | some b => rfl

theorem newHasher_platform (host : Host) (a : Algorithm) :
    (host.newHasher a).2.platform = host.platform := by
  cases a with
  | md5 => rfl
  | sha224 => exact host.defaultBackend_platform
  | sha256 => exact host.defaultBackend_platform

theorem restore_platform (host : Host) (h : Hasher) (blob : Bytes) :
    (host.restore h blob).2.platform = host.platform := by
  rw [restore]
  cases h.restore blob with
  | error e => rfl
  | ok restored => rfl

end Host

namespace Session

theorem withHandle_platform {s : Session} {name : String} {act : Handle → Answer × Session}
    (h : ∀ handle, (act handle).2.host.platform = s.host.platform) :
    (s.withHandle name act).2.host.platform = s.host.platform := by
  rw [withHandle]
  cases s.find? name with
  | none => rfl
  | some handle => exact h handle

theorem putConstructed_platform (s : Session) (name : String) (c : Constructor) :
    (s.putConstructed name c).2.host.platform = s.host.platform :=
  s.host.newHasher_platform c.algorithm

/-- No step exchanges the kernel. -/
theorem step_platform (s : Session) (step : Step) :
    (s.step step).2.host.platform = s.host.platform := by
  cases step with
  | get name a =>
      simp only [Session.step]
      cases s.registry.get? a with
      | none => rfl
      | some c => exact s.putConstructed_platform name c
  | getByName name algorithmName =>
      simp only [Session.step]
      cases s.registry.getByName algorithmName with
      | error e => rfl
      | ok c => exact s.putConstructed_platform name c
  | create name a backend =>
      cases backend with
      | none => exact s.host.newHasher_platform a
      | some b => rfl
  | restore name blob =>
      apply withHandle_platform
      intro h
      have hrestore := s.host.restore_platform h.hasher blob
      revert hrestore
      cases s.host.restore h.hasher blob with
      | mk result host =>
          intro hrestore
          cases result with
          | error e => exact hrestore
          | ok restored => exact hrestore
  | defaultBackend => exact s.host.defaultBackend_platform
  | checksumOf a data => exact s.host.newHasher_platform a
  | clone name source => exact withHandle_platform fun h => rfl
  | boxedClone name source => exact withHandle_platform fun h => rfl
  | write name interface data => exact withHandle_platform fun h => rfl
  | writePieces name interface pieces => exact withHandle_platform fun h => rfl
  | checksum name => exact withHandle_platform fun h => rfl
  | appendChecksum name data => exact withHandle_platform fun h => rfl
  | finalizeReset name => exact withHandle_platform fun h => rfl
  | reset name => exact withHandle_platform fun h => rfl
  | save name => exact withHandle_platform fun h => rfl
  | describe name => exact withHandle_platform fun h => rfl
  | _ => rfl

end Session

end Checksum
