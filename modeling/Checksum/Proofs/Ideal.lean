import Checksum.Session
import Checksum.Proofs.Resumed

/-!
# Sessions of messages

An ideal session takes the steps of a session with no unfinished hash in it. Of each hasher it keeps
the algorithm, the backend and the message, which is what the hasher was constructed with and what has
been written to it since. Writing appends to the message, cloning copies it, resetting empties it, the
checksum is the one-shot hash of it, and a saved state is a layout written down from it. Restoring is
left out, since a blob need not come from any message; instead `Ideal.resume` takes over a message with
which a state was saved, if the algorithms are the same, and otherwise refuses the identifier.

`Ideal.session` is the session that an ideal one stands for: behind each name a fresh hasher that has
read the message.
-/

namespace Checksum

/-- The state saved after a message, from the message as a whole. -/
def Algorithm.saved (a : Algorithm) (message : Bytes) : Bytes :=
  Saved.layout a.tag ((Block.whole message).foldl a.compress a.initial)
    (Saved.zeroFilled (Block.rest message)) (message.length % 2 ^ 64)

/-- What is told when a state is refused, which is the same for all hashers of an algorithm. -/
def Algorithm.refusal (a : Algorithm) (e : StateError) : Event := (Hasher.start .portable a).refusal e

def Step.isRestore : Step → Bool
  | .restore _ _ => true
  | _ => false

/-- A hasher, as the message it has read, and whether it is boxed. -/
structure Record where
  algorithm : Algorithm
  backend : Backend
  message : Bytes
  boxed : Bool

namespace Record

def describe (r : Record) : Description where
  algorithm := r.algorithm
  size := r.algorithm.digestSize
  blockSize := 64
  constants := if r.boxed then none else some r.algorithm.constants
  backend := if r.boxed then none else if r.algorithm = .md5 then none else some r.backend

def append (r : Record) (data : Bytes) : Record := { r with message := r.message ++ data }

def reset (r : Record) : Record := { r with message := [] }

def handle (r : Record) : Handle := ⟨.fresh r.backend r.algorithm r.message, r.boxed⟩

end Record

structure Ideal where
  host : Host
  registry : Registry
  records : List (String × Record)

namespace Ideal

def start (host : Host) : Ideal := ⟨host, .empty, []⟩

def find? (i : Ideal) (name : String) : Option Record :=
  (i.records.find? (·.1 = name)).map (·.2)

def put (i : Ideal) (name : String) (r : Record) : Ideal :=
  { i with records := (name, r) :: i.records.filter (·.1 ≠ name) }

def withRecord (i : Ideal) (name : String) (act : Record → Answer × Ideal) : Answer × Ideal :=
  match i.find? name with
  | some r => act r
  | none => (.absent, i)

def putConstructed (i : Ideal) (name : String) (c : Constructor) : Answer × Ideal :=
  let chosen := i.host.backendFor c.algorithm
  (.found (some c.algorithm),
    { i with host := chosen.2 }.put name ⟨c.algorithm, chosen.1, c.absorbed, true⟩)

def step (i : Ideal) : (s : Step) → s.isRestore = false → Answer × Ideal
  | .clearRegistry, _ => (.done, { i with registry := .empty })
  | .defaultRegistry, _ =>
      let made := i.host.defaultRegistry
      (.done, { i with registry := made.1, host := made.2 })
  | .register a c, _ =>
      let made := i.host.register i.registry a c
      (.done, { i with registry := made.1, host := made.2 })
  | .algorithms, _ => (.algorithms i.registry.algorithms, i)
  | .isAvailable a, _ => (.bool (i.registry.isAvailable a), i)
  | .get name a, _ =>
      match i.registry.get? a with
      | some c => i.putConstructed name c
      | none => (.found none, i)
  | .getByName name algorithmName, _ =>
      match i.registry.getByName algorithmName with
      | .ok c => i.putConstructed name c
      | .error e => (.registryError e, i)
  | .create name a (some b), _ => (.done, i.put name ⟨a, b, [], false⟩)
  | .create name a none, _ =>
      let chosen := i.host.backendFor a
      (.done, { i with host := chosen.2 }.put name ⟨a, chosen.1, [], false⟩)
  | .clone name source, _ => i.withRecord source fun r => (.done, i.put name r)
  | .boxedClone name source, _ =>
      i.withRecord source fun r => (.done, i.put name { r with boxed := true })
  | .write name interface data, _ => i.withRecord name fun r =>
      (if interface.counts then .count data.length else .done, i.put name (r.append data))
  | .writePieces name _ pieces, _ => i.withRecord name fun r =>
      (.count pieces.length, i.put name (r.append pieces.flatten))
  | .checksum name, _ => i.withRecord name fun r => (.bytes (r.algorithm.hash r.message), i)
  | .appendChecksum name data, _ => i.withRecord name fun r =>
      (.bytes (data ++ r.algorithm.hash r.message), i)
  | .finalizeReset name, _ => i.withRecord name fun r =>
      (.bytes (r.algorithm.hash r.message), i.put name r.reset)
  | .reset name, _ => i.withRecord name fun r => (.done, i.put name r.reset)
  | .save name, _ => i.withRecord name fun r => (.bytes (r.algorithm.saved r.message), i)
  | .describe name, _ => i.withRecord name fun r => (.description r.describe, i)
  | .setForcePortable value, _ => (.done, { i with host.forcePortable := value })
  | .detect, _ => (.backend i.host.detect, i)
  | .defaultBackend, _ =>
      let chosen := i.host.defaultBackend
      (.backend chosen.1, { i with host := chosen.2 })
  | .checksumOf a data, _ => (.bytes (a.hash data), { i with host := (i.host.backendFor a).2 })
  | .restore _ _, h => nomatch h

/-- Goes on from a message with which a state was saved. -/
def resume (i : Ideal) (name : String) (a : Algorithm) (message : Bytes) : Answer × Ideal :=
  i.withRecord name fun r =>
    if r.algorithm = a then (.restored, i.put name { r with message })
    else (.stateError .identifier, { i with host := i.host.tell (r.algorithm.refusal .identifier) })

def session (i : Ideal) : Session where
  host := i.host
  registry := i.registry
  handles := i.records.map fun entry => (entry.1, entry.2.handle)

end Ideal

end Checksum
