import Checksum.Proofs.Resumed
import Checksum.Proofs.Telling

/-!
# Refused states

Whether a blob is restored depends on its first four bytes and its size alone, and on nothing that the
hasher has read: other first bytes than the tag of the algorithm are refused as such, whatever the size;
then another size than 92 bytes for MD5 and 108 for the others is refused; every other blob is restored.
A refusal is told in one event, and it is the only trace it leaves: as nothing asks what has been told,
all later steps have the answers they would have had without it (`Session.run_told`).
-/

namespace Checksum

theorem savedSize_words (a : Algorithm) : savedSize a.words = if a = .md5 then 92 else 108 := by
  cases a <;> rfl

namespace Hasher

/-- A blob that is too short for a tag does not begin with one. -/
theorem take_ne_tag_iff {a : Algorithm} {blob : Bytes} :
    blob.take 4 ≠ a.tag.toList ↔ blob.length < 4 ∨ blob.take 4 ≠ a.tag.toList := by
  constructor
  · intro htag
    exact .inr htag
  · rintro (hshort | htag) heq
    · have hlength := congrArg List.length heq
      rw [List.length_take, Vector.length_toList] at hlength
      omega
    · exact htag heq

variable (h : Hasher) (blob : Bytes)

theorem restore_eq_identifier_iff :
    h.restore blob = .error .identifier
      ↔ blob.length < 4 ∨ blob.take 4 ≠ h.algorithm.tag.toList := by
  obtain ⟨b, a, m, rfl⟩ := h.exists_of
  rw [restore_eq_error_iff, Midstate.decode_eq_identifier_iff, algorithm_of]
  exact take_ne_tag_iff

theorem restore_eq_size_iff (expected actual : Nat) :
    h.restore blob = .error (.size expected actual)
      ↔ blob.take 4 = h.algorithm.tag.toList ∧ blob.length ≠ savedSize h.algorithm.words ∧
        expected = savedSize h.algorithm.words ∧ actual = blob.length := by
  obtain ⟨b, a, m, rfl⟩ := h.exists_of
  rw [restore_eq_error_iff, Midstate.decode_eq_size_iff, algorithm_of]

theorem exists_restore_iff :
    (∃ restored, h.restore blob = .ok restored)
      ↔ blob.take 4 = h.algorithm.tag.toList ∧ blob.length = savedSize h.algorithm.words := by
  obtain ⟨b, a, m, rfl⟩ := h.exists_of
  rw [algorithm_of, ← Midstate.exists_decode_iff]
  constructor
  · rintro ⟨restored, hrestored⟩
    obtain ⟨l, hl, -⟩ := restore_eq_ok_iff.mp hrestored
    exact ⟨l, hl⟩
  · rintro ⟨l, hl⟩
    exact ⟨_, restore_eq_ok_iff.mpr ⟨l, hl, rfl⟩⟩

/-- What is told carries the error. -/
theorem refusal_tells (e : StateError) :
    (h.refusal e).level = .debug ∧ ("err", e.message) ∈ (h.refusal e).fields := by
  cases h with
  | md5 m => exact ⟨rfl, List.mem_singleton_self _⟩
  | sha2 v b m => exact ⟨rfl, List.mem_cons_of_mem _ (List.mem_singleton_self _)⟩

end Hasher

namespace Session

variable {s : Session} {name : String} {h : Handle} {blob : Bytes}

theorem step_restore_of_ok (hfind : s.find? name = some h) {restored : Hasher}
    (hrestored : h.hasher.restore blob = .ok restored) :
    s.step (.restore name blob) = (.restored, s.update name h restored) := by
  simp only [step, withHandle, hfind, Host.restore, hrestored]

theorem step_restore_of_error (hfind : s.find? name = some h) {e : StateError}
    (hrestored : h.hasher.restore blob = .error e) :
    s.step (.restore name blob)
      = (.stateError e, { s with host := s.host.tell (h.hasher.refusal e) }) := by
  simp only [step, withHandle, hfind, Host.restore, hrestored]

theorem step_restore_eq_stateError_iff (hfind : s.find? name = some h) (e : StateError) :
    (s.step (.restore name blob)).1 = .stateError e ↔ h.hasher.restore blob = .error e := by
  cases hrestored : h.hasher.restore blob with
  | ok restored => simp [step_restore_of_ok hfind hrestored]
  | error e' => simp [step_restore_of_error hfind hrestored]

theorem step_restore_eq_restored_iff (hfind : s.find? name = some h) :
    (s.step (.restore name blob)).1 = .restored
      ↔ ∃ restored, h.hasher.restore blob = .ok restored := by
  cases hrestored : h.hasher.restore blob with
  | ok restored => simp [step_restore_of_ok hfind hrestored]
  | error e => simp [step_restore_of_error hfind hrestored]

/-- What has been restored is not told. -/
theorem step_restore_host_of_restored (hfind : s.find? name = some h)
    (hanswer : (s.step (.restore name blob)).1 = .restored) :
    (s.step (.restore name blob)).2.host = s.host := by
  obtain ⟨restored, hrestored⟩ := (step_restore_eq_restored_iff hfind).mp hanswer
  rw [step_restore_of_ok hfind hrestored]
  rfl

/-- A refusal changes nothing but what has been told. -/
theorem step_restore_state_of_stateError (hfind : s.find? name = some h) {e : StateError}
    (hanswer : (s.step (.restore name blob)).1 = .stateError e) :
    (s.step (.restore name blob)).2 = { s with host := s.host.tell (h.hasher.refusal e) } := by
  have hrestored := (step_restore_eq_stateError_iff hfind e).mp hanswer
  rw [step_restore_of_error hfind hrestored]

/-- An event more or less is the only difference that it makes to all that follows. -/
theorem run_told (s : Session) (e : Event) (steps : List Step) :
    ∃ answers later, s.run steps = (answers, behind s.host.log later) ∧
      ({ s with host := s.host.tell e } : Session).run steps
        = (answers, behind (s.host.log ++ [e]) later) := by
  have htold : ({ s with host := s.host.tell e } : Session) = s.silent.behind (s.host.log ++ [e]) := by
    simp only [behind, silent, Host.behind, Host.tell, List.append_nil]
  have hwithout := run_behind s.host.log s.silent steps
  rw [silent_behind] at hwithout
  refine ⟨_, _, hwithout, ?_⟩
  rw [htold, run_behind]
  rfl

/-- Restoring refuses other first bytes than the tag, and then other sizes, and nothing else; and a
refusal leaves everything as it was and to come, but for one event that tells of it. -/
theorem restore_is_exact_and_atomic (hfind : s.find? name = some h) (blob : Bytes) :
    let a := h.hasher.algorithm
    let size := if a = .md5 then 92 else 108
    let answer := (s.step (.restore name blob)).1
    let after := (s.step (.restore name blob)).2
    (answer = .stateError .identifier ↔ blob.length < 4 ∨ blob.take 4 ≠ a.tag.toList) ∧
    (∀ expected actual, answer = .stateError (.size expected actual)
      ↔ blob.take 4 = a.tag.toList ∧ blob.length ≠ size ∧ expected = size ∧ actual = blob.length) ∧
    (answer = .restored ↔ blob.take 4 = a.tag.toList ∧ blob.length = size) ∧
    (∀ other : Hasher, other.algorithm ≠ a →
      (s.step (.restore name other.save)).1 = .stateError .identifier) ∧
    (answer = .restored → after.host = s.host) ∧
    ∀ e, answer = .stateError e →
      let told := h.hasher.refusal e
      told.level = .debug ∧ ("err", e.message) ∈ told.fields ∧
      after = { s with host := s.host.tell told } ∧
      ∀ steps, ∃ answers later, s.run steps = (answers, behind s.host.log later) ∧
        after.run steps = (answers, behind (s.host.log ++ [told]) later) := by
  intro a size answer after
  have hsize : savedSize a.words = size := savedSize_words a
  refine ⟨?_, ?_, ?_, ?_, ?_, ?_⟩
  · exact (step_restore_eq_stateError_iff hfind _).trans (h.hasher.restore_eq_identifier_iff blob)
  · intro expected actual
    rw [← hsize]
    exact (step_restore_eq_stateError_iff hfind _).trans
      (h.hasher.restore_eq_size_iff blob expected actual)
  · rw [← hsize]
    exact (step_restore_eq_restored_iff hfind).trans (h.hasher.exists_restore_iff blob)
  · intro other hne
    exact (step_restore_eq_stateError_iff hfind _).mpr (Hasher.restore_save_of_ne hne)
  · intro hanswer
    exact step_restore_host_of_restored hfind hanswer
  · intro e hanswer told
    obtain ⟨hlevel, hfield⟩ := h.hasher.refusal_tells e
    have hafter : after = { s with host := s.host.tell told } :=
      step_restore_state_of_stateError hfind hanswer
    refine ⟨hlevel, hfield, hafter, ?_⟩
    intro steps
    rw [hafter]
    exact s.run_told told steps

/-- A boxed hasher that has read something: its tag with the wrong size behind it, too few bytes for a
tag, the state of another algorithm, and one of its own. -/
theorem restore_is_exact_and_atomic_boxed :
    let s := ((start (.start .generic none)).run [.create "a" .sha224 (some .accelerated),
      .write "a" .stream [1, 2], .boxedClone "b" "a"]).2
    let refused := s.step (.restore "b" [0x73, 0x68, 0x61, 0x02, 0])
    let later : List Step := [.write "b" .boxed [3], .save "b", .save "a", .describe "a"]
    ∃ h, s.find? "b" = some h ∧ h.boxed = true ∧
      refused.1 = .stateError (.size 108 5) ∧ refused.2.host.log.length = 1 ∧
      (refused.2.run later).1 = (s.run later).1 ∧
      (s.step (.restore "b" [0x73, 0x68, 0x61])).1 = .stateError .identifier ∧
      (s.step (.restore "b" (Hasher.start .portable .sha256).save)).1 = .stateError .identifier ∧
      (s.step (.restore "b" (Hasher.start .portable .sha224).save)).1 = .restored := by
  intro s refused later
  have hfind : s.find? "b" = some _ := rfl
  obtain ⟨-, hsize, -, hothers, -, herror⟩ :=
    restore_is_exact_and_atomic hfind [0x73, 0x68, 0x61, 0x02, 0]
  obtain ⟨hidentifier, -⟩ := restore_is_exact_and_atomic hfind [0x73, 0x68, 0x61]
  obtain ⟨-, -, hrestored, -⟩ :=
    restore_is_exact_and_atomic hfind (Hasher.start .portable .sha224).save
  have hanswer : refused.1 = .stateError (.size 108 5) := (hsize 108 5).mpr (by decide)
  obtain ⟨-, -, hafter, hruns⟩ := herror _ hanswer
  obtain ⟨answers, last, hwithout, hwith⟩ := hruns later
  refine ⟨_, hfind, rfl, hanswer, ?_, ?_, hidentifier.mpr (by decide), hothers _ (by decide),
    hrestored.mpr (by decide)⟩
  · exact congrArg (fun after : Session => after.host.log.length) hafter
  · exact (congrArg Prod.fst hwith).trans (congrArg Prod.fst hwithout).symm

end Session

end Checksum
