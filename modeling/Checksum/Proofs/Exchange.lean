import Checksum.Session

/-!
# One host in place of another

A step turns to the host for the platform, to tell of something, and to take the default backend; only
forcing and detecting reach for the variable themselves. So where another host has the same platform, and
telling and taking the default backend go the same on both, all other steps do (`Session.step_exchange`): the
answers are the same, and the sessions that are left differ in their hosts as they did before.
-/

namespace Checksum

/-- Whether a step neither changes the environment nor asks for detection. -/
def Step.isOrdinary : Step → Bool
  | .setForcePortable _ => false
  | .detect => false
  | _ => true

namespace Host

/-- What it takes for one host to stand in for another: telling and taking the default backend leave the two
in the same relation. -/
structure Exchange (f : Host → Host) (host : Host) : Prop where
  platform : (f host).platform = host.platform
  tell : ∀ (host : Host) (e : Event), (f host).tell e = f (host.tell e)
  defaultBackend : (f host).defaultBackend = host.defaultBackend.map id f

namespace Exchange

variable {f : Host → Host} {host : Host} (h : Exchange f host)
include h

theorem newHasher (a : Algorithm) : (f host).newHasher a = (host.newHasher a).map id f := by
  cases a with
  | md5 => rfl
  | sha224 =>
      simp only [Host.newHasher, h.defaultBackend]
      rfl
  | sha256 =>
      simp only [Host.newHasher, h.defaultBackend]
      rfl

theorem construct (c : Constructor) : (f host).construct c = (host.construct c).map id f := by
  simp only [Host.construct, h.newHasher, h.platform]
  rfl

theorem checksum (a : Algorithm) (data : Bytes) :
    (f host).checksum a data = (host.checksum a data).map id f := by
  simp only [Host.checksum, h.newHasher, h.platform]
  rfl

theorem register (r : Registry) (a : Algorithm) (c : Constructor) :
    (f host).register r a c = (host.register r a c).map id f := by
  simp only [Host.register, h.tell]
  rfl

theorem defaultRegistry : (f host).defaultRegistry = host.defaultRegistry.map id f := by
  simp only [Host.defaultRegistry, Algorithm.all, List.foldl_cons, List.foldl_nil, Host.register, h.tell]
  rfl

theorem restore (hasher : Hasher) (blob : Bytes) :
    (f host).restore hasher blob = (host.restore hasher blob).map id f := by
  simp only [Host.restore]
  cases hasher.restore blob with
  | ok restored => rfl
  | error e => exact congrArg (Prod.mk (Except.error e)) (h.tell host (hasher.refusal e))

end Exchange

end Host

namespace Session

/-- The session on another host. -/
def onHost (f : Host → Host) (s : Session) : Session := { s with host := f s.host }

variable {f : Host → Host} {s : Session}

theorem withHandle_exchange {name : String} {act act' : Handle → Answer × Session}
    (h : ∀ handle, act' handle = (act handle).map id (onHost f)) :
    (s.onHost f).withHandle name act' = (s.withHandle name act).map id (onHost f) := by
  have hfind : (s.onHost f).find? name = s.find? name := rfl
  rw [withHandle, withHandle, hfind]
  cases s.find? name with
  | none => rfl
  | some handle => exact h handle

variable (h : Host.Exchange f s.host)
include h

theorem putConstructed_exchange (name : String) (c : Constructor) :
    (s.onHost f).putConstructed name c = (s.putConstructed name c).map id (onHost f) := by
  have hhost : (s.onHost f).host = f s.host := rfl
  simp only [putConstructed, hhost, h.construct]
  rfl

theorem step_exchange {step : Step} (hordinary : step.isOrdinary = true) :
    (s.onHost f).step step = (s.step step).map id (onHost f) := by
  have hhost : (s.onHost f).host = f s.host := rfl
  have hregistry : (s.onHost f).registry = s.registry := rfl
  cases step with
  | setForcePortable value => cases hordinary
  | detect => cases hordinary
  | defaultRegistry =>
      simp only [Session.step, hhost, h.defaultRegistry]
      rfl
  | register a c =>
      simp only [Session.step, hhost, hregistry, h.register]
      rfl
  | get name a =>
      simp only [Session.step, hregistry]
      cases s.registry.get? a with
      | none => rfl
      | some c => exact putConstructed_exchange h name c
  | getByName name algorithmName =>
      simp only [Session.step, hregistry]
      cases s.registry.getByName algorithmName with
      | error e => rfl
      | ok c => exact putConstructed_exchange h name c
  | create name a backend =>
      cases backend with
      | some b => rfl
      | none =>
          simp only [Session.step, hhost, h.newHasher]
          rfl
  | restore name blob =>
      apply withHandle_exchange
      intro handle
      rw [hhost, h.restore]
      rcases s.host.restore handle.hasher blob with ⟨result, host⟩
      cases result with
      | error e => rfl
      | ok restored => rfl
  | defaultBackend =>
      simp only [Session.step, hhost, h.defaultBackend]
      rfl
  | checksumOf a data =>
      simp only [Session.step, hhost, h.checksum]
      rfl
  | write | writePieces | checksum | appendChecksum | finalizeReset =>
      apply withHandle_exchange
      intro handle
      rw [hhost, h.platform]
      rfl
  | clone | boxedClone | reset | save | describe => exact withHandle_exchange fun _ => rfl
  | _ => rfl

end Session

end Checksum
