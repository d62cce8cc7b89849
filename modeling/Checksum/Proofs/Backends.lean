import Checksum.Proofs.Lineage
import Checksum.Proofs.Refinement
import Checksum.Proofs.Sha256.Rolling

/-!
# Backends cannot be told apart

On sound platforms it makes no difference with which backends the hashers of a session are made, except
to who asks for them. A blind session is one whose hashers have forgotten their backends. What a step does
to a session, seen blindly, is what it does to the blind one, and its answer is the same but for a backend
in it (`Session.step_blind`). So a client that asks for one step after another, each by the answers it has
had so far, finds no difference, even if it restores in one hasher what it has saved of another.

A kernel may be given the blocks in any groups. A buffer passes on the waiting block by itself and those
behind it together, and closing passes on block by block; to a compression that takes the blocks in order
this comes to the same as passing on all of them at once (`Compression.InOrder.foldl_groups`).
-/

namespace Checksum

/-! ### Groups of blocks -/

theorem Compression.InOrder.foldl_groups {n : Nat} {run : Compression n} {f : BlockFunction n}
    (hrun : run.InOrder f) (groups : List (List Block)) (chain : Chain n) :
    groups.foldl run chain = run chain groups.flatten := by
  induction groups generalizing chain with
  | nil => exact (hrun chain []).symm
  | cons group groups ih =>
      rw [List.foldl_cons, ih, hrun, hrun, hrun, List.flatten_cons, List.foldl_append]

/-- The blocks that `data` completes, in the groups in which they are passed on. -/
def Buffer.groups (b : Buffer) (data : Bytes) : List (List Block) :=
  let blocks := (b.feed data).1
  let groups := if b.bytes = [] then [blocks] else [blocks.take 1, blocks.drop 1]
  groups.filter (!·.isEmpty)

theorem Buffer.flatten_groups (b : Buffer) (data : Bytes) :
    (b.groups data).flatten = (b.feed data).1 := by
  have hdrop (groups : List (List Block)) : (groups.filter (!·.isEmpty)).flatten = groups.flatten :=
    List.flatten_filter_not_isEmpty
  rw [groups, hdrop]
  by_cases hempty : b.bytes = []
  · rw [if_pos hempty, List.flatten_singleton]
  · rw [if_neg hempty]
    simp only [List.flatten_cons, List.flatten_nil, List.append_nil, List.take_append_drop]

namespace Midstate

variable {n : Nat} {run : Compression n} {f : BlockFunction n}

/-- Absorbs with one call of the compression for each group. -/
def absorbInGroups (run : Compression n) (m : Midstate n) (data : Bytes) : Midstate n where
  chain := (m.buffer.groups data).foldl run m.chain
  buffer := (m.buffer.feed data).2
  length := m.length + UInt64.ofNat data.length

/-- Finishes with one call of the compression for each block. -/
def finishByBlocks (order : ByteOrder) (run : Compression n) (m : Midstate n) : Chain n :=
  (m.closing order).foldl (fun chain block => run chain [block]) m.chain

theorem absorbInGroups_eq (hrun : run.InOrder f) (m : Midstate n) (data : Bytes) :
    m.absorbInGroups run data = m.absorb run data := by
  rw [absorbInGroups, absorb, hrun.foldl_groups, Buffer.flatten_groups]

theorem finishByBlocks_eq (hrun : run.InOrder f) (order : ByteOrder) (m : Midstate n) :
    m.finishByBlocks order run = m.finish order run := by
  have hblock : (fun chain block => run chain [block]) = f := by
    funext chain block
    exact hrun chain [block]
  rw [finishByBlocks, finish, hblock, hrun]

end Midstate

/-! ### Blind hashers -/

/-- There is no other compression in order than the sequential one. -/
theorem Platform.Sound.run_eq {p : Platform} (h : p.Sound) (b : Backend) (a : Algorithm) :
    p.run b a = .sequential a.compress := by
  funext chain blocks
  exact h.serves b a chain blocks

namespace Hasher

/-- The hasher on the portable backend, whatever its own. -/
def blind : Hasher → Hasher
  | md5 m => md5 m
  | sha2 variant _ m => sha2 variant .portable m

variable {p q : Platform} (h : Hasher)

theorem blind_of (b : Backend) (a : Algorithm) (m : Midstate a.words) :
    (of b a m).blind = of .portable a m := by
  cases a <;> rfl

theorem blind_blind : h.blind.blind = h.blind := by
  cases h <;> rfl

theorem blind_start (b : Backend) (a : Algorithm) : (start b a).blind = start .portable a := by
  cases a <;> rfl

theorem algorithm_blind : h.blind.algorithm = h.algorithm := by
  cases h <;> rfl

theorem blind_reset : h.reset.blind = h.blind.reset.blind := by
  cases h <;> rfl

theorem save_blind : h.blind.save = h.save := by
  cases h <;> rfl

theorem restore_blind (blob : Bytes) : h.blind.restore blob = (h.restore blob).map blind := by
  obtain ⟨b, a, m, rfl⟩ := h.exists_of
  rw [blind_of, restore_of, restore_of]
  cases Midstate.decode (n := a.words) a.tag blob with
  | error e => rfl
  | ok l => exact congrArg Except.ok (blind_of b a l).symm

theorem writeAll_blind (hp : p.Sound) (hq : q.Sound) (pieces : List Bytes) :
    h.blind.writeAll q pieces = (h.writeAll p pieces).map blind id := by
  obtain ⟨b, a, m, rfl⟩ := h.exists_of
  rw [blind_of, writeAll_of, writeAll_of, hp.run_eq, hq.run_eq, Prod.map_apply, blind_of]
  rfl

theorem checksum_blind (hp : p.Sound) (hq : q.Sound) : h.blind.checksum q = h.checksum p := by
  obtain ⟨b, a, m, rfl⟩ := h.exists_of
  rw [blind_of, checksum_of, checksum_of, hp.run_eq, hq.run_eq]

end Hasher

/-! ### Blind sessions -/

/-- The answer without a backend in it. -/
def Answer.blind : Answer → Answer
  | .description d => .description { d with backend := none }
  | .backend _ => .done
  | answer => answer

def Handle.blind (h : Handle) : Handle := { h with hasher := h.hasher.blind }

theorem Handle.blind_blind (h : Handle) : h.blind.blind = h.blind := by
  rw [blind, blind, Hasher.blind_blind]

/-- The step with another backend for the hasher that it creates, if it creates one. -/
def Step.withBackend (backend : Option Backend) : Step → Step
  | .create name a _ => .create name a backend
  | step => step

namespace Session

/-- The session on a host of its own, with all hashers on the portable backend. -/
def blind (s : Session) : Session where
  host := .start .generic none
  registry := s.registry
  handles := s.handles.map fun entry => (entry.1, entry.2.blind)

variable {s : Session} {name : String}

theorem find?_blind (s : Session) (name : String) :
    s.blind.find? name = (s.find? name).map Handle.blind := by
  rw [find?, blind, find?, List.find?_map, Option.map_map, Option.map_map]
  rfl

/-- Neither the host nor a backend is seen. -/
theorem blind_mk (s : Session) (host other : Host) (registry : Registry) :
    (Session.mk host registry s.handles).blind = (Session.mk other registry s.blind.handles).blind := by
  simp only [blind, List.map_map]
  congr 2
  funext entry
  simp only [Function.comp, Handle.blind, Hasher.blind_blind]

theorem blind_blind (s : Session) : s.blind.blind = s.blind := (s.blind_mk _ _ s.registry).symm

/-- A step that acts on a hasher, where it makes no difference to act on the blind one. -/
theorem withHandle_blind {act act' : Handle → Answer × Session}
    (hact : ∀ h : Handle, (act h).map Answer.blind blind = (act' h.blind).map Answer.blind blind) :
    (s.withHandle name act).map Answer.blind blind
      = (s.blind.withHandle name act').map Answer.blind blind := by
  rw [withHandle, withHandle, find?_blind]
  cases s.find? name with
  | none => exact congrArg (Prod.mk Answer.absent) s.blind_blind.symm
  | some h => exact hact h

/-- Putting hashers that differ in their backends gives sessions that differ in no more. -/
theorem blind_put (s : Session) (name : String) {host other : Host} {h k : Handle}
    (hblind : h.blind = k.blind) :
    ({ s with host := host }.put name h).blind = ({ s.blind with host := other }.put name k).blind := by
  simp only [blind, put, List.map_cons, List.filter_map, List.map_map, hblind]
  congr 3
  funext entry
  simp only [Function.comp, Handle.blind_blind]

/-- The same for a hasher in the place of the one that was there. -/
theorem blind_update (s : Session) (name : String) {host other : Host} (h : Handle) {x y : Hasher}
    (hblind : x.blind = y.blind) :
    ({ s with host := host }.update name h x).blind
      = ({ s.blind with host := other }.update name h.blind y).blind :=
  blind_put s name (congrArg (Handle.mk · h.boxed) hblind)

theorem putConstructed_blind (hs : s.host.platform.Sound) (name : String) (c : Constructor) :
    (s.putConstructed name c).map Answer.blind blind
      = (s.blind.putConstructed name c).map Answer.blind blind := by
  have hhost : s.blind.host.platform.Sound := Platform.generic_sound
  have hmade := Host.construct_eq (hs.serves (s.host.backendFor c.algorithm).1 c.algorithm)
  have hblind := Host.construct_eq (hhost.serves (s.blind.host.backendFor c.algorithm).1 c.algorithm)
  simp only [putConstructed, hmade, hblind, Prod.map_apply, Hasher.algorithm_fresh]
  refine congrArg (Prod.mk _) (s.blind_put name (congrArg (Handle.mk · true) ?_))
  rw [Hasher.fresh, Hasher.fresh, Hasher.blind_of, Hasher.blind_of]

theorem step_blind (hs : s.host.platform.Sound) (step : Step) (backend : Option Backend) :
    (s.step (step.withBackend backend)).map Answer.blind blind
      = (s.blind.step (step.withBackend none)).map Answer.blind blind := by
  have hhost : s.blind.host.platform.Sound := Platform.generic_sound
  have hregistry : s.blind.registry = s.registry := rfl
  cases step with
  | clearRegistry => exact congrArg (Prod.mk _) (s.blind_mk _ _ _)
  | defaultRegistry => exact congrArg (Prod.mk _) (s.blind_mk _ _ _)
  | register a c => exact congrArg (Prod.mk _) (s.blind_mk _ _ _)
  | algorithms => exact congrArg (Prod.mk _) (s.blind_mk _ _ _)
  | isAvailable a => exact congrArg (Prod.mk _) (s.blind_mk _ _ _)
  | setForcePortable value => exact congrArg (Prod.mk _) (s.blind_mk _ _ _)
  | detect => exact congrArg (Prod.mk _) (s.blind_mk _ _ _)
  | defaultBackend => exact congrArg (Prod.mk _) (s.blind_mk _ _ _)
  | get name a =>
      simp only [Step.withBackend, Session.step, hregistry]
      cases s.registry.get? a with
      | none => exact congrArg (Prod.mk _) (s.blind_mk _ _ _)
      | some c => exact putConstructed_blind hs name c
  | getByName name algorithmName =>
      simp only [Step.withBackend, Session.step, hregistry]
      cases s.registry.getByName algorithmName with
      | error e => exact congrArg (Prod.mk _) (s.blind_mk _ _ _)
      | ok c => exact putConstructed_blind hs name c
  | create name a b =>
      have hstart (b c : Backend) : (Hasher.start b a).blind = (Hasher.start c a).blind := by
        rw [Hasher.blind_start, Hasher.blind_start]
      simp only [Step.withBackend, Session.step, Host.newHasher_eq, Hasher.fresh_nil]
      cases backend with
      | some b =>
          exact congrArg (Prod.mk _) (s.blind_put name (congrArg (Handle.mk · false) (hstart _ _)))
      | none =>
          exact congrArg (Prod.mk _) (s.blind_put name (congrArg (Handle.mk · false) (hstart _ _)))
  | clone name source =>
      apply withHandle_blind
      intro h
      exact congrArg (Prod.mk _) (s.blind_put name h.blind_blind.symm)
  | boxedClone name source =>
      apply withHandle_blind
      intro h
      exact congrArg (Prod.mk _)
        (s.blind_put name (congrArg (Handle.mk · true) h.hasher.blind_blind.symm))
  | write name interface data =>
      apply withHandle_blind
      intro h
      have hwritten := h.hasher.writeAll_blind hs hhost (interface.portions data)
      simp only [Handle.blind, hwritten]
      exact congrArg (Prod.mk _) (s.blind_update name h (Hasher.blind_blind _).symm)
  | writePieces name interface pieces =>
      apply withHandle_blind
      intro h
      have hwritten := h.hasher.writeAll_blind hs hhost (pieces.flatMap interface.portions)
      simp only [Handle.blind, hwritten]
      exact congrArg (Prod.mk _) (s.blind_update name h (Hasher.blind_blind _).symm)
  | checksum name =>
      apply withHandle_blind
      intro h
      simp only [Handle.blind, h.hasher.checksum_blind hs hhost]
      exact congrArg (Prod.mk _) s.blind_blind.symm
  | appendChecksum name data =>
      apply withHandle_blind
      intro h
      simp only [Handle.blind, Hasher.appendChecksum, h.hasher.checksum_blind hs hhost]
      exact congrArg (Prod.mk _) s.blind_blind.symm
  | finalizeReset name =>
      apply withHandle_blind
      intro h
      simp only [Handle.blind, h.hasher.checksum_blind hs hhost]
      exact congrArg (Prod.mk _) (s.blind_update name h h.hasher.blind_reset)
  | reset name =>
      apply withHandle_blind
      intro h
      exact congrArg (Prod.mk _) (s.blind_update name h h.hasher.blind_reset)
  | save name =>
      apply withHandle_blind
      intro h
      simp only [Handle.blind, Hasher.save_blind]
      exact congrArg (Prod.mk _) s.blind_blind.symm
  | restore name blob =>
      apply withHandle_blind
      intro h
      have hrestored := h.hasher.restore_blind blob
      simp only [Host.restore, Handle.blind, hrestored]
      cases h.hasher.restore blob with
      | ok restored => exact congrArg (Prod.mk _) (s.blind_update name h restored.blind_blind.symm)
      | error e => exact congrArg (Prod.mk _) (s.blind_mk _ _ s.registry)
  | describe name =>
      apply withHandle_blind
      intro h
      simp only [Handle.describe, Handle.blind, Hasher.algorithm_blind]
      exact congrArg (Prod.mk _) s.blind_blind.symm
  | checksumOf a data =>
      have hmade := Host.checksum_eq (hs.serves (s.host.backendFor a).1 a)
      have hblind := Host.checksum_eq (hhost.serves (s.blind.host.backendFor a).1 a)
      simp only [Step.withBackend, Session.step, hmade, hblind]
      exact congrArg (Prod.mk _) (s.blind_mk _ _ _)

end Session

/-! ### Clients -/

/-- A client settles each step by the answers that it has had so far. -/
abbrev Client := List Answer → Step

namespace Session

/-- Takes `n` steps as the client asks for them. It sees no backend in the answers, and the hasher that is
created in step `i` gets the backend that `backends` has for `i`. -/
def serve (s : Session) (client : Client) (backends : Nat → Option Backend) : Nat → List Answer × Session
  | 0 => ([], s)
  | n + 1 =>
      let before := s.serve client backends n
      let taken := before.2.step ((client before.1).withBackend (backends n))
      (before.1 ++ [taken.1.blind], taken.2)

theorem serve_sound {s : Session} (hs : s.host.platform.Sound) (client : Client)
    (backends : Nat → Option Backend) (n : Nat) :
    (s.serve client backends n).2.host.platform.Sound := by
  induction n with
  | zero => exact hs
  | succ n ih =>
      rw [serve, step_platform]
      exact ih

theorem serve_blind {s t : Session} (hs : s.host.platform.Sound) (ht : t.host.platform.Sound)
    (hblind : s.blind = t.blind) (client : Client) (backends backends' : Nat → Option Backend) (n : Nat) :
    (s.serve client backends n).1 = (t.serve client backends' n).1 ∧
      (s.serve client backends n).2.blind = (t.serve client backends' n).2.blind := by
  induction n with
  | zero => exact ⟨rfl, hblind⟩
  | succ n ih =>
      obtain ⟨hanswers, hsessions⟩ := ih
      have hone := step_blind (serve_sound hs client backends n)
        (client (s.serve client backends n).1) (backends n)
      have htwo := step_blind (serve_sound ht client backends' n)
        (client (t.serve client backends' n).1) (backends' n)
      rw [hanswers, hsessions, ← htwo] at hone
      obtain ⟨hanswer, hsession⟩ := Prod.mk.inj hone
      simp only [serve, hanswers]
      exact ⟨congrArg (fun answer => _ ++ [answer]) hanswer, hsession⟩

end Session

theorem Hasher.Later.backend? {p : Platform} {h later : Hasher} (hlater : h.Later p later) :
    later.backend? = h.backend? := by
  obtain ⟨b, a, m, rfl⟩ := h.exists_of
  obtain ⟨l, rfl⟩ := hlater.exists_of
  cases a <;> rfl

namespace Session

/-- With whatever backends the hashers are made, a client gets the same answers and leaves the same
states behind; it makes no difference how the blocks are grouped on their way to the kernel; and a hasher
keeps the backend that it is made with, which for a copy is that of the hasher it is copied from. -/
theorem backends_are_unobservable {host other : Host} (hhost : host.platform.Sound)
    (hother : other.platform.Sound) :
    (∀ client backends backends' n,
      let one := (start host).serve client backends n
      let two := (start other).serve client backends' n
      one.1 = two.1 ∧
        ∀ name, (one.2.find? name).map Handle.blind = (two.2.find? name).map Handle.blind) ∧
    (∀ b a (m : Midstate a.words),
      (∀ data, m.absorbInGroups (host.platform.run b a) data = m.absorb (host.platform.run b a) data) ∧
      m.finishByBlocks a.order (host.platform.run b a) = m.finish a.order (host.platform.run b a)) ∧
    ∀ (s : Session) (name : String),
      (∀ a b, a ≠ .md5 → ∃ h, (s.step (.create name a (some b))).2.find? name = some h ∧
        h.hasher.backend? = some b) ∧
      (∀ source h, s.find? source = some h →
        (s.step (.clone name source)).2.find? name = some h ∧
        (s.step (.boxedClone name source)).2.find? name = some { h with boxed := true }) ∧
      ∀ h steps, s.find? name = some h → (∀ step ∈ steps, step.makes? ≠ some name) →
        ∃ later, (s.run steps).2.find? name = some later ∧ later.hasher.backend? = h.hasher.backend? := by
  refine ⟨?_, ?_, ?_⟩
  · intro client backends backends' n one two
    obtain ⟨hanswers, hsessions⟩ := serve_blind (s := start host) (t := start other) hhost hother rfl
      client backends backends' n
    refine ⟨hanswers, ?_⟩
    intro name
    rw [← find?_blind, ← find?_blind, hsessions]
  · intro b a m
    exact ⟨m.absorbInGroups_eq (hhost.serves b a), m.finishByBlocks_eq (hhost.serves b a) a.order⟩
  · intro s name
    refine ⟨?_, ?_, ?_⟩
    · intro a b ha
      refine ⟨_, find?_put_self s name _, ?_⟩
      cases a with
      | md5 => exact absurd rfl ha
      | sha224 => rfl
      | sha256 => rfl
    · intro source h hfind
      simp only [step, withHandle, hfind]
      exact ⟨find?_put_self s name h, find?_put_self s name _⟩
    · intro h steps hfind hmakes
      exact run_kept (fun p h later hlater => hlater.backend?) hfind hmakes

/-- A client that hands the state of one hasher to another, which has the other backend in both runs. -/
theorem backends_are_unobservable_handed_over :
    let client : Client := fun answers =>
      match answers with
      | [] => .create "a" .sha256 none
      | [_] => .create "b" .sha256 none
      | [_, _] => .write "a" .stream [1, 2, 3]
      | [_, _, _] => .save "a"
      | [_, _, _, .bytes blob] => .restore "b" blob
      | _ => .checksum "b"
    let one : Nat → Option Backend := fun i => if i = 0 then some .accelerated else some .portable
    let two : Nat → Option Backend := fun i => if i = 0 then some .portable else some .accelerated
    let s := start (.start .generic none)
    Platform.generic.Sound ∧ (s.serve client one 6).1 = (s.serve client two 6).1 ∧
      (s.serve client one 6).1[4]? = some .restored ∧
      ((s.serve client one 6).2.find? "b").bind (·.hasher.backend?) = some .portable ∧
      ((s.serve client two 6).2.find? "b").bind (·.hasher.backend?) = some .accelerated := by
  intro client one two s
  have hsound : (Host.start .generic none).platform.Sound := Platform.generic_sound
  obtain ⟨hsame, -, -⟩ := backends_are_unobservable hsound hsound
  exact ⟨Platform.generic_sound, (hsame client one two 6).1, by decide, by decide, by decide⟩

end Session

end Checksum
