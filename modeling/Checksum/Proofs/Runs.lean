import Checksum.Proofs.Refinement
import Checksum.Proofs.Sha256.Rolling

/-!
# Runs

In a run the saved states are kept, in the order in which they were answered, and an action either takes
a step or restores one of the states saved before, by its number, into any hasher there is. Beside it
runs an ideal session, which keeps the algorithm and the message of each saved state. The two go on in
step through every run: the same answers, and at every time the session and the states that the ideal
one stands for (`IdealRecording.run_recording`).
-/

namespace Checksum

/-- A step, or restoring from one of the states that were saved before. -/
inductive Action where
  | take (s : Step) (h : s.isRestore = false)
  | resume (name : String) (number : Nat)

/-- A session, and the states that were saved in it so far. -/
structure Recording where
  session : Session
  saved : List Bytes

namespace Recording

def start (host : Host) : Recording := ⟨.start host, []⟩

/-- The state that a step saves. -/
def savedBy : Step → Answer → List Bytes
  | .save _, .bytes blob => [blob]
  | _, _ => []

def take (r : Recording) (s : Step) : Answer × Recording :=
  let taken := r.session.step s
  (taken.1, ⟨taken.2, r.saved ++ savedBy s taken.1⟩)

def act (r : Recording) : Action → Answer × Recording
  | .take s _ => r.take s
  | .resume name number =>
      match r.saved[number]? with
      | some blob => r.take (.restore name blob)
      | none => (.absent, r)

def run (r : Recording) : List Action → List Answer × Recording
  | [] => ([], r)
  | first :: rest =>
      let taken := r.act first
      let others := run taken.2 rest
      (taken.1 :: others.1, others.2)

theorem act_platform (r : Recording) (action : Action) :
    (r.act action).2.session.host.platform = r.session.host.platform := by
  cases action with
  | take s h => exact r.session.step_platform s
  | resume name number =>
      simp only [act]
      cases r.saved[number]? with
      | none => rfl
      | some blob => exact r.session.step_platform (.restore name blob)

end Recording

/-- An ideal session, and the messages with which states were saved in it so far. -/
structure IdealRecording where
  ideal : Ideal
  saved : List (Algorithm × Bytes)

namespace IdealRecording

def start (host : Host) : IdealRecording := ⟨.start host, []⟩

/-- The message with which a step saves a state. -/
def savedBy (i : Ideal) : Step → List (Algorithm × Bytes)
  | .save name =>
      match i.find? name with
      | some r => [(r.algorithm, r.message)]
      | none => []
  | _ => []

def act (r : IdealRecording) : Action → Answer × IdealRecording
  | .take s h =>
      let taken := r.ideal.step s h
      (taken.1, ⟨taken.2, r.saved ++ savedBy r.ideal s⟩)
  | .resume name number =>
      match r.saved[number]? with
      | some (a, message) =>
          let taken := r.ideal.resume name a message
          (taken.1, ⟨taken.2, r.saved⟩)
      | none => (.absent, r)

def run (r : IdealRecording) : List Action → List Answer × IdealRecording
  | [] => ([], r)
  | first :: rest =>
      let taken := r.act first
      let others := run taken.2 rest
      (taken.1 :: others.1, others.2)

/-- The session and the saved states that this stands for. -/
def recording (r : IdealRecording) : Recording where
  session := r.ideal.session
  saved := r.saved.map fun entry => entry.1.saved entry.2

/-! ### In step -/

/-- The state that a step saves is that of the message that is kept. -/
theorem savedBy_step (i : Ideal) (s : Step) (h : s.isRestore = false) :
    Recording.savedBy s (i.step s h).1 = (savedBy i s).map fun entry => entry.1.saved entry.2 := by
  cases s with
  | save name =>
      simp only [Ideal.step, Ideal.withRecord, savedBy]
      cases i.find? name with
      | none => rfl
      | some r => rfl
  | restore name blob => cases h
  | _ => rfl

theorem act_recording {r : IdealRecording} (hsound : r.ideal.host.platform.Sound) (action : Action) :
    r.recording.act action = (r.act action).map id recording := by
  cases action with
  | take s h =>
      have hstep := Ideal.step_session hsound s h
      simp only [Recording.act, Recording.take, act, recording, hstep, Prod.map_apply, Prod.map_fst,
        Prod.map_snd, id, List.map_append, savedBy_step]
  | resume name number =>
      simp only [Recording.act, act, recording, List.getElem?_map]
      cases r.saved[number]? with
      | none => rfl
      | some entry =>
          have hstep := Ideal.resume_session r.ideal name entry.1 entry.2
          simp only [Option.map_some, Recording.take, hstep, Recording.savedBy, List.append_nil]
          rfl

/-- The platform stays sound, so that the next action can be taken in step as well. -/
theorem act_sound {r : IdealRecording} (hsound : r.ideal.host.platform.Sound) (action : Action) :
    (r.act action).2.ideal.host.platform.Sound := by
  have hplatform := r.recording.act_platform action
  rw [act_recording hsound] at hplatform
  have hsame : (r.act action).2.ideal.host.platform = r.ideal.host.platform := hplatform
  rwa [hsame]

theorem run_recording {r : IdealRecording} (hsound : r.ideal.host.platform.Sound)
    (actions : List Action) :
    r.recording.run actions = (r.run actions).map id recording := by
  induction actions generalizing r with
  | nil => rfl
  | cons first rest ih =>
      simp only [Recording.run, run, act_recording hsound, Prod.map_fst, Prod.map_snd, id,
        ih (act_sound hsound first)]
      rfl

/-- Every run from the start goes as the ideal one does. A checksum in it is the one-shot checksum of the
message, and a saved state is that of a hasher that has read the message in one write. -/
theorem runs_keep_to_messages {host : Host} (hsound : host.platform.Sound) (actions : List Action) :
    (Recording.start host).run actions = ((start host).run actions).map id recording ∧
      ∀ a message, (host.checksum a message).1 = a.hash message ∧
        ∀ b, ((Hasher.start b a).absorb host.platform message).save = a.saved message := by
  refine ⟨run_recording (r := start host) hsound actions, ?_⟩
  intro a message
  constructor
  · rw [Host.checksum_eq (hsound.serves _ a)]
  · intro b
    rw [← Hasher.fresh_nil, Hasher.absorb_fresh (hsound.serves b a), List.nil_append, Hasher.save_fresh]

/-- A hasher that is resumed from the state of another, on another backend, goes on from its message. -/
theorem runs_keep_to_messages_resumed :
    Platform.generic.Sound ∧
      ((Recording.start (.start .generic none)).run
        [.take (.create "a" .sha256 (some .accelerated)) rfl, .take (.write "a" .stream [1, 2]) rfl,
          .take (.save "a") rfl, .take (.reset "a") rfl,
          .take (.create "b" .sha256 (some .portable)) rfl, .resume "b" 0,
          .take (.write "b" .chained [3]) rfl, .take (.checksum "b") rfl,
          .take (.create "c" .md5 none) rfl, .resume "c" 0]).1
      = [.done, .count 2, .bytes (Algorithm.sha256.saved [1, 2]), .done, .done, .restored, .done,
          .bytes (Algorithm.sha256.hash [1, 2, 3]), .done, .stateError .identifier] := by
  refine ⟨Platform.generic_sound, ?_⟩
  rw [(runs_keep_to_messages Platform.generic_sound _).1]
  rfl

end IdealRecording

end Checksum
