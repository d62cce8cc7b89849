import Checksum.Proofs.Exchange

/-!
# What has been told

Events are told to the log of the host, and nothing that is done reads them. So everything goes the same
behind a log with more in it: the same answers, the same hashers, and the same events added to the log
(`Session.step_behind`, `Session.run_behind`). A session is written as one with an empty log behind the
events told so far (`Session.silent_behind`), which makes two sessions that differ in what has been told
two ways of putting one session behind a log.
-/

namespace Checksum

namespace Host

variable (log : List Event) (host : Host)

/-- The host with events told before all of its own. -/
def behind (log : List Event) (host : Host) : Host := { host with log := log ++ host.log }

theorem tell_behind (e : Event) : (host.behind log).tell e = (host.tell e).behind log := by
  simp only [tell, behind, List.append_assoc]

theorem defaultBackend_behind :
    (host.behind log).defaultBackend = host.defaultBackend.map id (behind log) := by
  simp only [defaultBackend]
  have hchosen : (host.behind log).chosen = host.chosen := rfl
  have hdetect : (host.behind log).detect = host.detect := rfl
  rw [hchosen, hdetect]
  cases host.chosen with
  | some b => rfl
  | none =>
      exact congrArg (Prod.mk host.detect)
        (tell_behind log { host with chosen := some host.detect } (choice host.detect))

theorem exchange_behind : Exchange (behind log) host where
  platform := rfl
  tell := tell_behind log
  defaultBackend := defaultBackend_behind log host

end Host

namespace Session

variable (log : List Event) (s : Session)

def behind (log : List Event) (s : Session) : Session := { s with host := s.host.behind log }

/-- The session with nothing told yet. -/
def silent (s : Session) : Session := { s with host.log := [] }

theorem silent_behind : s.silent.behind s.host.log = s := by
  simp only [behind, silent, Host.behind, List.append_nil]

/-- A step neither asks what has been told nor takes any of it back. -/
theorem step_behind (step : Step) :
    (s.behind log).step step = (s.step step).map id (behind log) := by
  cases step with
  | setForcePortable value => rfl
  | detect => rfl
  | _ => exact step_exchange (s.host.exchange_behind log) rfl

theorem run_behind (steps : List Step) :
    (s.behind log).run steps = (s.run steps).map id (behind log) := by
  induction steps generalizing s with
  | nil => rfl
  | cons first rest ih =>
      simp only [run, step_behind, Prod.map_fst, Prod.map_snd, id, ih]
      rfl

end Session

end Checksum
