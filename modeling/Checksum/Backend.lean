import Checksum.Flag
import Checksum.Sha256.Window

/-!
# Backends

The SHA-256 block function can be run in a portable way, one block at a time, or by a kernel of the
platform that is given the blocks together. A platform is sound if its kernel computes the same
function; that is all that is asked of it. Detection prefers the kernel where the processor has
instructions for it, unless the environment insists on the portable way.
-/

namespace Checksum

inductive Backend where
  | portable
  | accelerated
  deriving DecidableEq, Repr

namespace Backend

def all : List Backend := [portable, accelerated]

def name : Backend → String
  | portable => "portable"
  | accelerated => "accelerated"

def label : Backend → String
  | portable => "Portable"
  | accelerated => "Accelerated"

/-- The environment variable that forces the portable backend when it is set to a true flag. -/
def forcePortableVariable : String := "CKSUM_FORCE_PORTABLE"

end Backend

structure Platform where
  shaInstructions : Bool
  kernel : Compression 8

namespace Platform

def Sound (p : Platform) : Prop := Compression.InOrder p.kernel Sha256.compress

/-- A platform without instructions of its own, whose kernel is the moving window. -/
def generic : Platform := ⟨false, Sha256.Window.run⟩

def compression (p : Platform) : Backend → Compression 8
  | .portable => .sequential Sha256.compress
  | .accelerated => p.kernel

/-- The backend that suits the platform, given the value of the forcing variable. -/
def detect (p : Platform) (forcePortable : Option Bytes) : Backend :=
  if Flag.isSet forcePortable then .portable
  else if p.shaInstructions then .accelerated
  else .portable

end Platform

end Checksum
