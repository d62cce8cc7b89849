import Checksum.Host

/-!
# Sessions

A session is a host together with a registry and hashers under names. A step acts on one of them
and has an answer; a step that names a hasher which is not there changes nothing and answers
`absent`. Hashers that come out of the registry, or out of copying into a box, are boxed: they are
the same hashers behind one common type, so only what is asked about the type itself differs. In the
same way all the interfaces through which data is written do the same work on the same hasher.
-/

namespace Checksum

/-- A hasher, and whether it is held behind the type common to all algorithms. -/
structure Handle where
  hasher : Hasher
  boxed : Bool

/-- The ways in which data is written. Copying reads it in portions, whose sizes cycle through a list. -/
inductive Interface where
  | direct
  | generic
  | boxed
  | stream
  | copying (sizes : List Nat := [8192])
  | chained
  | digest
  deriving DecidableEq, Repr

namespace Interface

/-- Whether a write through this interface answers how many bytes it took. -/
def counts : Interface → Bool
  | chained => false
  | digest => false
  | _ => true

/-- The pieces in which the data arrives: copying reads it in portions, all others pass it whole. -/
def portions (i : Interface) (data : Bytes) : List Bytes :=
  match i with
  | copying sizes => data.cut sizes
  | _ => [data]

end Interface

inductive Step where
  | clearRegistry
  | defaultRegistry
  | register (algorithm : Algorithm) (constructor : Constructor)
  | algorithms
  | isAvailable (algorithm : Algorithm)
  | get (name : String) (algorithm : Algorithm)
  | getByName (name : String) (algorithmName : String)
  | create (name : String) (algorithm : Algorithm) (backend : Option Backend)
  | clone (name source : String)
  | boxedClone (name source : String)
  | write (name : String) (interface : Interface) (data : Bytes)
  | writePieces (name : String) (interface : Interface) (pieces : List Bytes)
  | checksum (name : String)
  | appendChecksum (name : String) (data : Bytes)
  | finalizeReset (name : String)
  | reset (name : String)
  | save (name : String)
  | restore (name : String) (blob : Bytes)
  | describe (name : String)
  | setForcePortable (value : Option Bytes)
  | detect
  | defaultBackend
  | checksumOf (algorithm : Algorithm) (data : Bytes)

/-- What the type of a hasher fixes for all hashers of that type. -/
structure Constants where
  algorithm : Algorithm
  size : Nat
  blockSize : Nat
  outputSize : Nat
  deriving DecidableEq, Repr

def Algorithm.constants (a : Algorithm) : Constants := ⟨a, a.digestSize, 64, a.digestSize⟩

/-- What a hasher says of itself. A boxed one has no type of its own to say more, and no backend to show. -/
structure Description where
  algorithm : Algorithm
  size : Nat
  blockSize : Nat
  constants : Option Constants
  backend : Option Backend
  deriving DecidableEq, Repr

inductive Answer where
  | done
  | restored
  | absent
  | count (n : Nat)
  | bool (b : Bool)
  | bytes (bs : Bytes)
  | algorithms (as : List Algorithm)
  | found (a : Option Algorithm)
  | backend (b : Backend)
  | description (d : Description)
  | registryError (e : RegistryError)
  | stateError (e : StateError)
  deriving DecidableEq, Repr

def Handle.describe (h : Handle) : Description :=
  let a := h.hasher.algorithm
  { algorithm := a
    size := a.digestSize
    blockSize := 64
    constants := if h.boxed then none else some a.constants
    backend := if h.boxed then none else h.hasher.backend? }

structure Session where
  host : Host
  registry : Registry
  handles : List (String × Handle)

namespace Session

def start (host : Host) : Session := ⟨host, .empty, []⟩

def find? (s : Session) (name : String) : Option Handle :=
  (s.handles.find? (·.1 = name)).map (·.2)

def put (s : Session) (name : String) (h : Handle) : Session :=
  { s with handles := (name, h) :: s.handles.filter (·.1 ≠ name) }

@[simp] theorem find?_put_self (s : Session) (name : String) (h : Handle) :
    (s.put name h).find? name = some h := by
  simp [find?, put]

theorem find?_put_of_ne (s : Session) {name other : String} (h : Handle) (hne : other ≠ name) :
    (s.put name h).find? other = s.find? other := by
  simp only [find?, put, List.find?_cons, decide_eq_false (Ne.symm hne), List.find?_filter]
  congr 2
  funext entry
  by_cases heq : entry.1 = other
  · simp [heq, hne]
  · simp [heq]

def saved? (s : Session) (name : String) : Option Bytes := (s.find? name).map (·.hasher.save)

/-- Acts on a hasher that is there. -/
def withHandle (s : Session) (name : String) (act : Handle → Answer × Session) : Answer × Session :=
  match s.find? name with
  | some h => act h
  | none => (.absent, s)

/-- Puts a hasher behind the name of the one it comes from. -/
def update (s : Session) (name : String) (h : Handle) (hasher : Hasher) : Session :=
  s.put name { h with hasher }

/-- Puts a boxed hasher under a name as a constructor builds it. -/
def putConstructed (s : Session) (name : String) (c : Constructor) : Answer × Session :=
  let made := s.host.construct c
  (.found (some made.1.algorithm), { s with host := made.2 }.put name ⟨made.1, true⟩)

def step (s : Session) : Step → Answer × Session
  | .clearRegistry => (.done, { s with registry := .empty })
  | .defaultRegistry =>
      let made := s.host.defaultRegistry
      (.done, { s with registry := made.1, host := made.2 })
  | .register a c =>
      let made := s.host.register s.registry a c
      (.done, { s with registry := made.1, host := made.2 })
  | .algorithms => (.algorithms s.registry.algorithms, s)
  | .isAvailable a => (.bool (s.registry.isAvailable a), s)
  | .get name a =>
      match s.registry.get? a with
      | some c => s.putConstructed name c
      | none => (.found none, s)
  | .getByName name algorithmName =>
      match s.registry.getByName algorithmName with
      | .ok c => s.putConstructed name c
      | .error e => (.registryError e, s)
  | .create name a (some b) => (.done, s.put name ⟨.start b a, false⟩)
  | .create name a none =>
      let made := s.host.newHasher a
      (.done, { s with host := made.2 }.put name ⟨made.1, false⟩)
  | .clone name source => s.withHandle source fun h => (.done, s.put name h)
  | .boxedClone name source => s.withHandle source fun h => (.done, s.put name { h with boxed := true })
  | .write name interface data => s.withHandle name fun h =>
      let written := h.hasher.writeAll s.host.platform (interface.portions data)
      (if interface.counts then .count written.2 else .done, s.update name h written.1)
  | .writePieces name interface pieces => s.withHandle name fun h =>
      let portions := pieces.flatMap interface.portions
      let written := h.hasher.writeAll s.host.platform portions
      (.count pieces.length, s.update name h written.1)
  | .checksum name => s.withHandle name fun h => (.bytes (h.hasher.checksum s.host.platform), s)
  | .appendChecksum name data => s.withHandle name fun h =>
      (.bytes (h.hasher.appendChecksum s.host.platform data), s)
  | .finalizeReset name => s.withHandle name fun h =>
      (.bytes (h.hasher.checksum s.host.platform), s.update name h h.hasher.reset)
  | .reset name => s.withHandle name fun h => (.done, s.update name h h.hasher.reset)
  | .save name => s.withHandle name fun h => (.bytes h.hasher.save, s)
  | .restore name blob => s.withHandle name fun h =>
      match s.host.restore h.hasher blob with
      | (.ok restored, host) => (.restored, { s with host }.update name h restored)
      | (.error e, host) => (.stateError e, { s with host })
  | .describe name => s.withHandle name fun h => (.description h.describe, s)
  | .setForcePortable value => (.done, { s with host.forcePortable := value })
  | .detect => (.backend s.host.detect, s)
  | .defaultBackend =>
      let chosen := s.host.defaultBackend
      (.backend chosen.1, { s with host := chosen.2 })
  | .checksumOf a data =>
      let made := s.host.checksum a data
      (.bytes made.1, { s with host := made.2 })

/-- Takes steps in order and collects their answers. -/
def run (s : Session) : List Step → List Answer × Session
  | [] => ([], s)
  | first :: rest =>
      let taken := s.step first
      let others := run taken.2 rest
      (taken.1 :: others.1, others.2)

end Session

end Checksum
