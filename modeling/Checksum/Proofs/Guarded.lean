import Checksum.Proofs.Ideal
import Checksum.Proofs.Lineage
import Checksum.Proofs.Raw

/-!
# Sessions that stop at a fault

A guarded session takes the steps of a session on `Raw` midstates, with everything checked on the way
that the operations rely on; where a check fails, the run stops with the fault. No run does: every step
of a session goes through on the guarded session that it corresponds to, with the same answer
(`Guarded.step_session`). What makes it so for saved states of any origin is that restoring takes as many
pending bytes as the count asks for modulo 64, and that the count stays in step with the pending bytes
when it passes `2 ^ 64`, since 64 divides that (`Hasher.Aligned`).
-/

namespace Checksum

inductive RawHasher where
  | md5 (mid : Raw 4)
  | sha2 (variant : Sha256.Variant) (backend : Backend) (mid : Raw 8)

namespace RawHasher

def start (backend : Backend) : Algorithm → RawHasher
  | .md5 => md5 (.start Md5.initial)
  | .sha224 => sha2 .sha224 backend (.start Sha256.Variant.sha224.initial)
  | .sha256 => sha2 .sha256 backend (.start Sha256.Variant.sha256.initial)

def algorithm : RawHasher → Algorithm
  | md5 _ => .md5
  | sha2 variant _ _ => .ofVariant variant

def backend? : RawHasher → Option Backend
  | md5 _ => none
  | sha2 _ backend _ => some backend

def pending : RawHasher → Bytes
  | md5 mid => mid.pending
  | sha2 _ _ mid => mid.pending

/-- The number of bytes absorbed, modulo `2 ^ 64`. -/
def length : RawHasher → UInt64
  | md5 mid => mid.length
  | sha2 _ _ mid => mid.length

def write (p : Platform) (h : RawHasher) (data : Bytes) : Except Fault (RawHasher × Nat) :=
  match h with
  | md5 mid => (mid.write Md5.run data).map fun written => (md5 written.1, written.2)
  | sha2 variant backend mid =>
      (mid.write (p.compression backend) data).map fun written =>
        (sha2 variant backend written.1, written.2)

def writeAll (p : Platform) (h : RawHasher) (pieces : List Bytes) : Except Fault (RawHasher × Nat) :=
  pieces.foldlM (fun (h, count) piece => do
    let written ← h.write p piece
    return (written.1, count + written.2)) (h, 0)

def checksum (p : Platform) : RawHasher → Except Fault Bytes
  | md5 mid => mid.digest .little Md5.run Md5.digestSize
  | sha2 variant backend mid => mid.digest .big (p.compression backend) variant.digestSize

def reset : RawHasher → RawHasher
  | md5 _ => md5 (.start Md5.initial)
  | sha2 variant backend _ => sha2 variant backend (.start variant.initial)

def save : RawHasher → Except Fault Bytes
  | md5 mid => mid.encode Md5.tag
  | sha2 variant _ mid => mid.encode variant.tag

def restore (h : RawHasher) (blob : Bytes) : Except Fault (Except StateError RawHasher) :=
  match h with
  | md5 _ => (Raw.decode Md5.tag blob).map (·.map md5)
  | sha2 variant backend _ => (Raw.decode variant.tag blob).map (·.map (sha2 variant backend))

end RawHasher

namespace Hasher

/-- The plain record of a hasher. -/
def raw : Hasher → RawHasher
  | md5 m => .md5 m.raw
  | sha2 variant backend m => .sha2 variant backend m.raw

variable (p : Platform) (h : Hasher)

theorem raw_start (b : Backend) (a : Algorithm) : (start b a).raw = .start b a := by
  cases a <;> rfl

theorem algorithm_raw : h.raw.algorithm = h.algorithm := by
  cases h <;> rfl

theorem backend?_raw : h.raw.backend? = h.backend? := by
  cases h <;> rfl

/-- What is told of a refusal depends on the algorithm alone. -/
theorem refusal_eq (e : StateError) : h.refusal e = h.algorithm.refusal e := by
  rcases h with m | ⟨variant, backend, m⟩
  · rfl
  · cases variant <;> rfl

theorem raw_reset : h.reset.raw = h.raw.reset := by
  cases h <;> rfl

theorem write_raw (data : Bytes) :
    h.raw.write p data = .ok ((h.write p data).1.raw, (h.write p data).2) := by
  cases h with
  | md5 m =>
      rw [raw, RawHasher.write, Midstate.write_raw]
      rfl
  | sha2 variant backend m =>
      rw [raw, RawHasher.write, Midstate.write_raw]
      rfl

theorem writeAll_raw (pieces : List Bytes) :
    h.raw.writeAll p pieces = .ok ((h.writeAll p pieces).1.raw, (h.writeAll p pieces).2) := by
  have hcounting (count : Nat) :
      pieces.foldlM (m := Except Fault) (fun (state : RawHasher × Nat) piece => do
        let written ← state.1.write p piece
        return (written.1, state.2 + written.2)) (h.raw, count)
      = .ok ((pieces.foldl (fun (state : Hasher × Nat) piece =>
          ((state.1.write p piece).1, state.2 + (state.1.write p piece).2)) (h, count)).map raw id) := by
    induction pieces generalizing h count with
    | nil => rfl
    | cons piece pieces ih =>
        rw [List.foldlM_cons, write_raw]
        exact ih _ _
  exact hcounting 0

theorem checksum_raw : h.raw.checksum p = .ok (h.checksum p) := by
  cases h with
  | md5 m => exact Midstate.digest_raw _ _ _ (by decide)
  | sha2 variant backend m => exact Midstate.digest_raw _ _ _ (by cases variant <;> decide)

theorem save_raw : h.raw.save = .ok h.save := by
  cases h with
  | md5 m => exact Midstate.encode_raw _ _
  | sha2 variant backend m => exact Midstate.encode_raw _ _

theorem restore_raw (blob : Bytes) : h.raw.restore blob = .ok ((h.restore blob).map raw) := by
  cases h with
  | md5 m =>
      rw [raw, RawHasher.restore, Midstate.decode_raw, restore]
      cases Midstate.decode (n := 4) Md5.tag blob <;> rfl
  | sha2 variant backend m =>
      rw [raw, RawHasher.restore, Midstate.decode_raw, restore]
      cases Midstate.decode (n := 8) variant.tag blob <;> rfl

end Hasher

/-- A hasher that stops at a fault, and whether it is boxed. -/
structure RawHandle where
  hasher : RawHasher
  boxed : Bool

def RawHandle.describe (h : RawHandle) : Description :=
  let a := h.hasher.algorithm
  { algorithm := a
    size := a.digestSize
    blockSize := 64
    constants := if h.boxed then none else some a.constants
    backend := if h.boxed then none else h.hasher.backend? }

structure Guarded where
  host : Host
  registry : Registry
  handles : List (String × RawHandle)

namespace Guarded

def start (host : Host) : Guarded := ⟨host, .empty, []⟩

def find? (g : Guarded) (name : String) : Option RawHandle :=
  (g.handles.find? (·.1 = name)).map (·.2)

def put (g : Guarded) (name : String) (h : RawHandle) : Guarded :=
  { g with handles := (name, h) :: g.handles.filter (·.1 ≠ name) }

def update (g : Guarded) (name : String) (h : RawHandle) (hasher : RawHasher) : Guarded :=
  g.put name { h with hasher }

def withHandle (g : Guarded) (name : String) (act : RawHandle → Except Fault (Answer × Guarded)) :
    Except Fault (Answer × Guarded) :=
  match g.find? name with
  | some h => act h
  | none => .ok (.absent, g)

def putConstructed (g : Guarded) (name : String) (c : Constructor) : Except Fault (Answer × Guarded) := do
  let chosen := g.host.backendFor c.algorithm
  let made ← (RawHasher.start chosen.1 c.algorithm).write g.host.platform c.absorbed
  return (.found (some made.1.algorithm), { g with host := chosen.2 }.put name ⟨made.1, true⟩)

def step (g : Guarded) : Step → Except Fault (Answer × Guarded)
  | .get name a =>
      match g.registry.get? a with
      | some c => g.putConstructed name c
      | none => .ok (.found none, g)
  | .getByName name algorithmName =>
      match g.registry.getByName algorithmName with
      | .ok c => g.putConstructed name c
      | .error e => .ok (.registryError e, g)
  | .create name a (some b) => .ok (.done, g.put name ⟨.start b a, false⟩)
  | .create name a none =>
      let chosen := g.host.backendFor a
      .ok (.done, { g with host := chosen.2 }.put name ⟨.start chosen.1 a, false⟩)
  | .clone name source => g.withHandle source fun h => .ok (.done, g.put name h)
  | .boxedClone name source =>
      g.withHandle source fun h => .ok (.done, g.put name { h with boxed := true })
  | .write name interface data => g.withHandle name fun h => do
      let written ← h.hasher.writeAll g.host.platform (interface.portions data)
      return (if interface.counts then .count written.2 else .done, g.update name h written.1)
  | .writePieces name interface pieces => g.withHandle name fun h => do
      let written ← h.hasher.writeAll g.host.platform (pieces.flatMap interface.portions)
      return (.count pieces.length, g.update name h written.1)
  | .checksum name => g.withHandle name fun h => do
      let checksum ← h.hasher.checksum g.host.platform
      return (.bytes checksum, g)
  | .appendChecksum name data => g.withHandle name fun h => do
      let checksum ← h.hasher.checksum g.host.platform
      return (.bytes (data ++ checksum), g)
  | .finalizeReset name => g.withHandle name fun h => do
      let checksum ← h.hasher.checksum g.host.platform
      return (.bytes checksum, g.update name h h.hasher.reset)
  | .reset name => g.withHandle name fun h => .ok (.done, g.update name h h.hasher.reset)
  | .save name => g.withHandle name fun h => do
      let blob ← h.hasher.save
      return (.bytes blob, g)
  | .restore name blob => g.withHandle name fun h => do
      match ← h.hasher.restore blob with
      | .ok restored => return (.restored, g.update name h restored)
      | .error e =>
          let told := h.hasher.algorithm.refusal e
          return (.stateError e, { g with host := g.host.tell told })
  | .describe name => g.withHandle name fun h => .ok (.description h.describe, g)
  | .checksumOf a data => do
      let chosen := g.host.backendFor a
      let written ← (RawHasher.start chosen.1 a).write g.host.platform data
      let checksum ← written.1.checksum g.host.platform
      return (.bytes checksum, { g with host := chosen.2 })
  | other =>
      -- The other steps are about the host and the registry and come near no hasher.
      let taken := (Session.mk g.host g.registry []).step other
      .ok (taken.1, { g with host := taken.2.host, registry := taken.2.registry })

def run (g : Guarded) : List Step → Except Fault (List Answer × Guarded)
  | [] => .ok ([], g)
  | first :: rest => do
      let taken ← g.step first
      let others ← run taken.2 rest
      return (taken.1 :: others.1, others.2)

end Guarded

/-- The guarded session on the plain records of the hashers. -/
def Session.guarded (s : Session) : Guarded where
  host := s.host
  registry := s.registry
  handles := s.handles.map fun entry => (entry.1, ⟨entry.2.hasher.raw, entry.2.boxed⟩)

namespace Guarded

variable {s : Session} {name : String}

theorem find?_guarded (s : Session) (name : String) :
    s.guarded.find? name = (s.find? name).map fun h => ⟨h.hasher.raw, h.boxed⟩ := by
  rw [find?, Session.guarded, Session.find?, List.find?_map, Option.map_map, Option.map_map]
  rfl

theorem guarded_put (s : Session) (name : String) (h : Handle) :
    (s.put name h).guarded = s.guarded.put name ⟨h.hasher.raw, h.boxed⟩ := by
  simp only [Session.guarded, put, Session.put, List.map_cons, List.filter_map]
  rfl

/-- A step that acts on a hasher, where no check fails on its plain record. -/
theorem withHandle_guarded {act : Handle → Answer × Session}
    {act' : RawHandle → Except Fault (Answer × Guarded)}
    (h : ∀ h : Handle, act' ⟨h.hasher.raw, h.boxed⟩ = .ok ((act h).map id Session.guarded)) :
    s.guarded.withHandle name act' = .ok ((s.withHandle name act).map id Session.guarded) := by
  rw [Session.withHandle, withHandle, find?_guarded]
  cases s.find? name with
  | none => rfl
  | some handle => exact h handle

theorem putConstructed_guarded (s : Session) (name : String) (c : Constructor) :
    s.guarded.putConstructed name c = .ok ((s.putConstructed name c).map id Session.guarded) := by
  have hhost : s.guarded.host = s.host := rfl
  simp only [putConstructed, Session.putConstructed, hhost, Host.construct, Host.newHasher_eq,
    Hasher.fresh_nil, ← Hasher.raw_start, Hasher.write_raw, Prod.map_apply, guarded_put, Hasher.absorb]
  rw [← Hasher.algorithm_raw]
  rfl

theorem step_session (s : Session) (step : Step) :
    s.guarded.step step = .ok ((s.step step).map id Session.guarded) := by
  have hhost : s.guarded.host = s.host := rfl
  have hregistry : s.guarded.registry = s.registry := rfl
  cases step with
  | clearRegistry => rfl
  | defaultRegistry => rfl
  | register a c => rfl
  | algorithms => rfl
  | isAvailable a => rfl
  | setForcePortable value => rfl
  | detect => rfl
  | defaultBackend => rfl
  | get name a =>
      simp only [Session.step, step, hregistry]
      cases s.registry.get? a with
      | none => rfl
      | some c => exact putConstructed_guarded s name c
  | getByName name algorithmName =>
      simp only [Session.step, step, hregistry]
      cases s.registry.getByName algorithmName with
      | error e => rfl
      | ok c => exact putConstructed_guarded s name c
  | create name a backend =>
      cases backend with
      | some b =>
          simp only [Session.step, step, ← Hasher.raw_start, Prod.map_apply, id, guarded_put]
      | none =>
          simp only [Session.step, step, hhost, Host.newHasher_eq, Hasher.fresh_nil,
            ← Hasher.raw_start, Prod.map_apply, id, guarded_put]
          rfl
  | clone name source =>
      apply withHandle_guarded
      intro h
      rw [Prod.map_apply, guarded_put]
      rfl
  | boxedClone name source =>
      apply withHandle_guarded
      intro h
      rw [Prod.map_apply, guarded_put]
      rfl
  | write name interface data =>
      apply withHandle_guarded
      intro h
      rw [hhost, Hasher.writeAll_raw, Prod.map_apply, Session.update, guarded_put]
      rfl
  | writePieces name interface pieces =>
      apply withHandle_guarded
      intro h
      rw [hhost, Hasher.writeAll_raw, Prod.map_apply, Session.update, guarded_put]
      rfl
  | checksum name =>
      apply withHandle_guarded
      intro h
      rw [hhost, Hasher.checksum_raw]
      rfl
  | appendChecksum name data =>
      apply withHandle_guarded
      intro h
      rw [hhost, Hasher.checksum_raw]
      rfl
  | finalizeReset name =>
      apply withHandle_guarded
      intro h
      rw [hhost, Hasher.checksum_raw, Prod.map_apply, Session.update, guarded_put, Hasher.raw_reset]
      rfl
  | reset name =>
      apply withHandle_guarded
      intro h
      rw [Prod.map_apply, Session.update, guarded_put, Hasher.raw_reset]
      rfl
  | save name =>
      apply withHandle_guarded
      intro h
      rw [Hasher.save_raw]
      rfl
  | restore name blob =>
      apply withHandle_guarded
      intro h
      rw [Hasher.restore_raw, Host.restore]
      cases h.hasher.restore blob with
      | ok restored =>
          rw [Prod.map_apply, Session.update, guarded_put]
          rfl
      | error e =>
          simp only [Hasher.refusal_eq, ← Hasher.algorithm_raw]
          rfl
  | describe name =>
      apply withHandle_guarded
      intro h
      simp only [RawHandle.describe, Hasher.algorithm_raw, Hasher.backend?_raw]
      rfl
  | checksumOf a data =>
      simp only [Session.step, step, hhost, Host.checksum, Host.newHasher_eq, Hasher.fresh_nil,
        ← Hasher.raw_start, Hasher.write_raw]
      change RawHasher.checksum s.host.platform (Hasher.raw _) >>= _ = _
      rw [Hasher.checksum_raw]
      rfl

theorem run_session (s : Session) (steps : List Step) :
    s.guarded.run steps = .ok ((s.run steps).map id Session.guarded) := by
  induction steps generalizing s with
  | nil => rfl
  | cons first rest ih =>
      rw [run, step_session]
      change s.step first |>.2.guarded.run rest >>= _ = _
      rw [ih]
      rfl

end Guarded

/-! ### Pending bytes and the count -/

/-- As many bytes are pending as the count modulo 64 says. -/
def RawHasher.Aligned (h : RawHasher) : Prop := h.pending.length = h.length.toNat % 64

theorem RawHasher.Aligned.length_pending_lt {h : RawHasher} (ha : h.Aligned) : h.pending.length < 64 := by
  rw [RawHasher.Aligned] at ha
  omega

namespace Hasher

theorem aligned_raw_of {b : Backend} {a : Algorithm} {m : Midstate a.words} :
    (of b a m).raw.Aligned ↔ m.Aligned := by
  cases a <;> exact Iff.rfl

theorem aligned_start (b : Backend) (a : Algorithm) : (start b a).raw.Aligned := by
  rw [start_eq_of, aligned_raw_of]
  exact Midstate.start_aligned a.initial

/-- Writing, resetting and restoring all keep the pending bytes in step with the count. -/
theorem Later.aligned {p : Platform} {h later : Hasher} (ha : h.raw.Aligned) (hlater : h.Later p later) :
    later.raw.Aligned := by
  obtain ⟨b, a, m, rfl⟩ := h.exists_of
  rw [aligned_raw_of] at ha
  cases hlater with
  | same => exact aligned_raw_of.mpr ha
  | written pieces =>
      rw [writeAll_of, aligned_raw_of]
      induction pieces generalizing m with
      | nil => exact ha
      | cons piece pieces ih => exact ih _ (ha.absorb _ piece)
  | reset =>
      rw [reset_of]
      exact aligned_start b a
  | restored hrestored =>
      obtain ⟨l, hl, rfl⟩ := restore_eq_ok_iff.mp hrestored
      exact aligned_raw_of.mpr (Midstate.aligned_of_decode hl)

/-- All of the data is taken. -/
theorem write_snd (p : Platform) (h : Hasher) (data : Bytes) : (h.write p data).2 = data.length := by
  cases h <;> rfl

theorem length_save (h : Hasher) : h.save.length = savedSize h.algorithm.words := by
  obtain ⟨b, a, m, rfl⟩ := h.exists_of
  rw [save_of, Midstate.length_encode, algorithm_of]

theorem length_checksum (p : Platform) (h : Hasher) :
    (h.checksum p).length = h.algorithm.digestSize := by
  obtain ⟨b, a, m, rfl⟩ := h.exists_of
  have hsize : a.digestSize ≤ 4 * a.words := by cases a <;> decide
  rw [checksum_of, algorithm_of, Midstate.digest, Midstate.output, List.length_take,
    Midstate.length_flatMap_bytes32, Vector.length_toList]
  omega

end Hasher

namespace Guarded

/-- No run of a session stops, however the hashers in it come about; in every hasher as many bytes are
pending as the count modulo 64 says, its saved state and its checksum have their sizes, and there is no
blob and no data on which it would stop next. -/
theorem runs_never_stop (host : Host) (steps : List Step) :
    let ran := (Session.start host).run steps
    (start host).run steps = .ok (ran.1, ran.2.guarded) ∧
    ∀ name h, ran.2.guarded.find? name = some h →
      h.hasher.pending.length = h.hasher.length.toNat % 64 ∧ h.hasher.pending.length < 64 ∧
      (∃ blob, h.hasher.save = .ok blob ∧ blob.length = savedSize h.hasher.algorithm.words) ∧
      (∃ checksum, h.hasher.checksum host.platform = .ok checksum ∧
        checksum.length = h.hasher.algorithm.digestSize) ∧
      (∀ blob, ∃ result, h.hasher.restore blob = .ok result) ∧
      ∀ data, ∃ written, h.hasher.write host.platform data = .ok (written, data.length) ∧
        written.Aligned := by
  intro ran
  refine ⟨run_session (Session.start host) steps, ?_⟩
  intro name h hfind
  obtain ⟨handle, hhandle, rfl⟩ := Option.map_eq_some_iff.mp ((find?_guarded _ _).symm.trans hfind)
  have ha : handle.hasher.raw.Aligned :=
    Session.run_invariant (P := fun h => h.raw.Aligned) Hasher.aligned_start
      (fun p h later => Hasher.Later.aligned) (fun name h hfind => by cases hfind) steps name handle
      hhandle
  refine ⟨ha, ha.length_pending_lt, ?_, ?_, ?_, ?_⟩
  · refine ⟨_, handle.hasher.save_raw, ?_⟩
    rw [Hasher.length_save, Hasher.algorithm_raw]
  · refine ⟨_, handle.hasher.checksum_raw _, ?_⟩
    rw [Hasher.length_checksum, Hasher.algorithm_raw]
  · intro blob
    exact ⟨_, handle.hasher.restore_raw blob⟩
  · intro data
    have hwritten : ((handle.hasher.write host.platform data).1).raw.Aligned :=
      Hasher.Later.aligned ha (.written [data])
    exact ⟨_, by rw [Hasher.write_raw, Hasher.write_snd], hwritten⟩

/-- A restored count one short of `2 ^ 64`, two more bytes, and a copy: the count has wrapped to one. -/
theorem runs_never_stop_past_wrap :
    let blob := Saved.layout (n := 4) Algorithm.md5.tag (Vector.replicate 4 0)
      (Vector.replicate 64 7).toList (2 ^ 64 - 1)
    ∃ answers last h, (start (.start .generic none)).run [.create "a" .md5 none, .restore "a" blob,
        .write "a" .direct [1, 2], .clone "b" "a"] = .ok (answers, last) ∧
      last.find? "b" = some h ∧ h.hasher.length = 1 ∧ h.hasher.pending.length = 1 := by
  intro blob
  obtain ⟨hrun, hlast⟩ := runs_never_stop (.start .generic none) [.create "a" .md5 none,
    .restore "a" blob, .write "a" .direct [1, 2], .clone "b" "a"]
  have hcount : (((Session.start (.start .generic none)).run [.create "a" .md5 none,
      .restore "a" blob, .write "a" .direct [1, 2], .clone "b" "a"]).2.guarded.find? "b").map
        (·.hasher.length) = some 1 := by decide
  obtain ⟨h, hfind, hlength⟩ := Option.map_eq_some_iff.mp hcount
  obtain ⟨hpending, -⟩ := hlast "b" h hfind
  rw [hlength] at hpending
  exact ⟨_, _, h, hrun, hfind, hlength, hpending⟩

end Guarded

end Checksum
