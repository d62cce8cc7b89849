import Checksum.Algorithm
import Checksum.Backend
import Checksum.Log.Event
import Checksum.Midstate.Saved

/-!
# Hashers

A hasher is an unfinished hash of one of the three algorithms; one of the SHA-2 kind also keeps the
backend it was made with, through resetting and restoring. Reading the checksum leaves the hasher as
it is. A state that is refused leaves it as it is too.
-/

namespace Checksum

inductive Hasher where
  | md5 (mid : Midstate 4)
  | sha2 (variant : Sha256.Variant) (backend : Backend) (mid : Midstate 8)

namespace Hasher

/-- A hasher that has absorbed nothing; MD5 has no use for the backend. -/
def start (backend : Backend) : Algorithm → Hasher
  | .md5 => md5 (.start Md5.initial)
  | .sha224 => sha2 .sha224 backend (.start Sha256.Variant.sha224.initial)
  | .sha256 => sha2 .sha256 backend (.start Sha256.Variant.sha256.initial)

def algorithm : Hasher → Algorithm
  | md5 _ => .md5
  | sha2 variant _ _ => .ofVariant variant

def backend? : Hasher → Option Backend
  | md5 _ => none
  | sha2 _ backend _ => some backend

/-- The number of bytes absorbed, modulo `2 ^ 64`. -/
def length : Hasher → UInt64
  | md5 mid => mid.length
  | sha2 _ _ mid => mid.length

def write (p : Platform) (h : Hasher) (data : Bytes) : Hasher × Nat :=
  match h with
  | md5 mid =>
      let written := mid.write Md5.run data
      (md5 written.1, written.2)
  | sha2 variant backend mid =>
      let written := mid.write (p.compression backend) data
      (sha2 variant backend written.1, written.2)

def absorb (p : Platform) (h : Hasher) (data : Bytes) : Hasher := (h.write p data).1

/-- Writes pieces one after another and counts what was taken in all. -/
def writeAll (p : Platform) (h : Hasher) (pieces : List Bytes) : Hasher × Nat :=
  pieces.foldl (fun (h, count) piece =>
    let written := h.write p piece
    (written.1, count + written.2)) (h, 0)

def checksum (p : Platform) : Hasher → Bytes
  | md5 mid => mid.digest .little Md5.run Md5.digestSize
  | sha2 variant backend mid => mid.digest .big (p.compression backend) variant.digestSize

/-- The data with the checksum behind it. -/
def appendChecksum (p : Platform) (h : Hasher) (data : Bytes) : Bytes := data ++ h.checksum p

def reset : Hasher → Hasher
  | md5 _ => md5 (.start Md5.initial)
  | sha2 variant backend _ => sha2 variant backend (.start variant.initial)

def save : Hasher → Bytes
  | md5 mid => mid.encode Md5.tag
  | sha2 variant _ mid => mid.encode variant.tag

def restore (h : Hasher) (blob : Bytes) : Except StateError Hasher :=
  match h with
  | md5 _ => (Midstate.decode Md5.tag blob).map md5
  | sha2 variant backend _ => (Midstate.decode variant.tag blob).map (sha2 variant backend)

/-- What is told when a state is refused. -/
def refusal (h : Hasher) (e : StateError) : Event :=
  match h with
  | md5 _ => ⟨.debug, "cksum_hash::md5", "rejected MD5 state", [("err", e.message)]⟩
  | sha2 variant _ _ =>
      ⟨.debug, "cksum_hash::sha256", "rejected SHA-2 state",
        [("variant", variant.label), ("err", e.message)]⟩

end Hasher

end Checksum
