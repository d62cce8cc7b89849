import Checksum.Hasher
import Checksum.Log.Filter
import Checksum.Registry

/-!
# Hosts

What hashers share: the platform, the environment variable that forces the portable backend, the
backend that was chosen for hashers made without one, the log filter once one is installed, and the
events told so far. The choice of a backend is made once, on the first use that needs it, and holds
for good; detection on request answers from the environment of the moment and chooses nothing.
-/

namespace Checksum

structure Host where
  platform : Platform
  forcePortable : Option Bytes
  chosen : Option Backend
  filter : Option Log.Filter
  log : List Event

namespace Host

def start (platform : Platform) (forcePortable : Option Bytes) : Host :=
  ⟨platform, forcePortable, none, none, []⟩

def tell (host : Host) (e : Event) : Host := { host with log := host.log ++ [e] }

/-- Installs the filter that the variable's value asks for; a second filter is refused. -/
def installFilter (host : Host) (value : Option Bytes) : Option Host :=
  match host.filter with
  | none => some { host with filter := some (.ofVariable value) }
  | some _ => none

/-- The lines that the installed filter lets through. -/
def lines (host : Host) : List String :=
  match host.filter with
  | none => []
  | some filter => (host.log.filter filter.passes).map Event.line

def detect (host : Host) : Backend := host.platform.detect host.forcePortable

/-- What is told when the backend is chosen. -/
def choice (b : Backend) : Event :=
  ⟨.debug, "cksum_hash::sha256::backend", "selected SHA-256 compression backend",
    [("backend", b.name)]⟩

def defaultBackend (host : Host) : Backend × Host :=
  match host.chosen with
  | some b => (b, host)
  | none => (host.detect, { host with chosen := some host.detect }.tell (choice host.detect))

/-- A fresh hasher with the default backend, which MD5 does not ask for. -/
def newHasher (host : Host) (a : Algorithm) : Hasher × Host :=
  match a with
  | .md5 => (.start .portable .md5, host)
  | a =>
      let chosen := host.defaultBackend
      (.start chosen.1 a, chosen.2)

def construct (host : Host) (c : Constructor) : Hasher × Host :=
  let made := host.newHasher c.algorithm
  (made.1.absorb host.platform c.absorbed, made.2)

/-- The checksum of one byte string. -/
def checksum (host : Host) (a : Algorithm) (data : Bytes) : Bytes × Host :=
  let made := host.newHasher a
  ((made.1.absorb host.platform data).checksum host.platform, made.2)

def register (host : Host) (r : Registry) (a : Algorithm) (c : Constructor) : Registry × Host :=
  (r.register a c, host.tell (Registry.registration a))

/-- Registers every algorithm with its own constructor in an empty registry. -/
def defaultRegistry (host : Host) : Registry × Host :=
  Algorithm.all.foldl (fun (r, host) a => host.register r a (.fresh a)) (.empty, host)

/-- Restores a saved state, and tells of a refusal. -/
def restore (host : Host) (h : Hasher) (blob : Bytes) : Except StateError Hasher × Host :=
  match h.restore blob with
  | .ok restored => (.ok restored, host)
  | .error e => (.error e, host.tell (h.refusal e))

end Host

end Checksum
