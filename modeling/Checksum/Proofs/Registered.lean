import Checksum.Proofs.Refinement

/-!
# What is registered after a history

A registry stands for a map from algorithms to constructors, and of its history it knows no more than the
last assignment to each algorithm. A step assigns something to some algorithms or leaves the registry as it
is (`Session.registry_step`), so after a run each algorithm has what the last step that assigns to it has
given it (`Session.get?_run`). The list shows the domain of that map in its ascending order, of which there
is only one: neither the order in which the algorithms were registered nor the order in which a table
would hold them can be seen in it (`Registry.algorithms_congr`, `Registry.algorithms_of_perm`). What is
looked up depends on that map, the platform and the backend that is chosen for the whole process, and on
no hasher (`Session.looksUp_get?`).
-/

namespace Checksum

namespace Algorithm

theorem rank_injective {a b : Algorithm} (h : a.rank = b.rank) : a = b := by
  revert h
  cases a <;> cases b <;> decide

/-- In strictly ascending order, so without repetition. -/
def Ascending (as : List Algorithm) : Prop := as.Pairwise fun a b => a.rank < b.rank

/-- There is one way to list a set of algorithms in ascending order. -/
theorem Ascending.eq_of_mem_iff {as bs : List Algorithm} (has : Ascending as) (hbs : Ascending bs)
    (h : ∀ a, a ∈ as ↔ a ∈ bs) : as = bs := by
  have hnodup {cs : List Algorithm} (hcs : Ascending cs) : cs.Nodup :=
    hcs.imp fun hlt heq => absurd (congrArg rank heq) (Nat.ne_of_lt hlt)
  refine List.Perm.eq_of_pairwise ?_ has hbs ((List.perm_ext_iff_of_nodup (hnodup has) (hnodup hbs)).mpr h)
  intro a b _ _ hab hba
  exact absurd hba (Nat.lt_asymm hab)

end Algorithm

namespace Registry

open Algorithm

variable {r : Registry}

theorem isAvailable_iff_mem {a : Algorithm} : r.isAvailable a ↔ a ∈ r.entries.map (·.1) := by
  rw [isAvailable, get?, Option.isSome_map, List.find?_isSome, List.mem_map]
  simp only [decide_eq_true_eq]

theorem perm_algorithms (r : Registry) : r.algorithms.Perm (r.entries.map (·.1)) :=
  List.mergeSort_perm _ _

theorem sorted_algorithms (r : Registry) : r.algorithms.Pairwise fun a b => a.rank ≤ b.rank := by
  have htrans (a b c : Algorithm) :
      decide (a.rank ≤ b.rank) → decide (b.rank ≤ c.rank) → decide (a.rank ≤ c.rank) := by
    simp only [decide_eq_true_eq]
    exact Nat.le_trans
  have htotal (a b : Algorithm) : decide (a.rank ≤ b.rank) || decide (b.rank ≤ a.rank) := by
    simp only [Bool.or_eq_true, decide_eq_true_eq]
    exact Nat.le_total _ _
  exact (List.pairwise_mergeSort htrans htotal _).imp of_decide_eq_true

/-- Keys that come in any order have one ascending arrangement. -/
theorem algorithms_of_perm {as : List Algorithm} (h : as.Perm (r.entries.map (·.1)))
    (hsorted : as.Pairwise fun a b => a.rank ≤ b.rank) : as = r.algorithms := by
  refine List.Perm.eq_of_pairwise ?_ hsorted r.sorted_algorithms (h.trans r.perm_algorithms.symm)
  intro a b _ _ hab hba
  exact rank_injective (Nat.le_antisymm hab hba)

theorem ascending_algorithms (r : Registry) : Ascending r.algorithms := by
  have hnodup := r.perm_algorithms.nodup_iff.mpr r.nodup
  refine (r.sorted_algorithms.and hnodup).imp ?_
  rintro a b ⟨hle, hne⟩
  exact Nat.lt_of_le_of_ne hle fun heq => hne (rank_injective heq)

theorem mem_algorithms_iff {a : Algorithm} : a ∈ r.algorithms ↔ r.isAvailable a := by
  rw [algorithms, List.mem_mergeSort, isAvailable_iff_mem]

/-- What is listed depends on what is available and on nothing else. -/
theorem algorithms_congr {other : Registry} (h : ∀ a, r.isAvailable a = other.isAvailable a) :
    r.algorithms = other.algorithms := by
  refine (ascending_algorithms r).eq_of_mem_iff (ascending_algorithms other) ?_
  intro a
  rw [mem_algorithms_iff, mem_algorithms_iff, h]

end Registry

/-- What a step assigns to an algorithm in the registry: a constructor, or none. -/
def Step.assigns? (a : Algorithm) : Step → Option (Option Constructor)
  | .clearRegistry => some none
  | .defaultRegistry => some (some (.fresh a))
  | .register b c => if b = a then some (some c) else none
  | _ => none

/-- Only clearing takes something away. -/
theorem Step.isSome_of_assigns? {a : Algorithm} {step : Step} {assigned : Option Constructor}
    (hstep : step ≠ .clearRegistry) (h : step.assigns? a = some assigned) : assigned.isSome := by
  cases step with
  | clearRegistry => exact absurd rfl hstep
  | defaultRegistry => cases h; rfl
  | register b c =>
      rw [assigns?] at h
      split at h
      · cases h; rfl
      · cases h
  | _ => cases h

namespace Session

variable {s : Session} {step : Step}

/-- What a history leaves assigned to an algorithm: the last that was assigned, if anything was, and
otherwise what was there before. -/
def latest (s : Session) (steps : List Step) (a : Algorithm) : Option Constructor :=
  (steps.reverse.findSome? (Step.assigns? a)).getD (s.registry.get? a)

theorem registry_withHandle {name : String} {act : Handle → Answer × Session}
    (hact : ∀ h, (act h).2.registry = s.registry) : (s.withHandle name act).2.registry = s.registry := by
  rw [withHandle]
  cases s.find? name with
  | none => rfl
  | some h => exact hact h

/-- A step that assigns nothing leaves the registry as it is. -/
theorem registry_step (hkeeps : ∀ a, step.assigns? a = none) :
    (s.step step).2.registry = s.registry := by
  cases step with
  | clearRegistry => cases hkeeps .md5
  | defaultRegistry => cases hkeeps .md5
  | register a c =>
      have hassigned : (Step.register a c).assigns? a = some (some c) := if_pos rfl
      cases hassigned.symm.trans (hkeeps a)
  | get name a =>
      simp only [Session.step]
      cases s.registry.get? a with
      | none => rfl
      | some c => rfl
  | getByName name algorithmName =>
      simp only [Session.step]
      cases s.registry.getByName algorithmName with
      | error e => rfl
      | ok c => rfl
  | create name a backend => cases backend <;> rfl
  | restore name blob =>
      apply registry_withHandle
      intro h
      simp only [Host.restore]
      cases h.hasher.restore blob <;> rfl
  | clone name source => exact registry_withHandle fun _ => rfl
  | boxedClone name source => exact registry_withHandle fun _ => rfl
  | write name interface data => exact registry_withHandle fun _ => rfl
  | writePieces name interface pieces => exact registry_withHandle fun _ => rfl
  | checksum name => exact registry_withHandle fun _ => rfl
  | appendChecksum name data => exact registry_withHandle fun _ => rfl
  | finalizeReset name => exact registry_withHandle fun _ => rfl
  | reset name => exact registry_withHandle fun _ => rfl
  | save name => exact registry_withHandle fun _ => rfl
  | describe name => exact registry_withHandle fun _ => rfl
  | _ => rfl

theorem get?_step (a : Algorithm) :
    (s.step step).2.registry.get? a = (step.assigns? a).getD (s.registry.get? a) := by
  cases step with
  | clearRegistry => rfl
  | defaultRegistry => cases a <;> rfl
  | register b c =>
      have hget := s.registry.get?_register b a c
      by_cases hb : b = a
      · rw [if_pos hb] at hget
        rw [Step.assigns?, if_pos hb]
        exact hget
      · rw [if_neg hb] at hget
        rw [Step.assigns?, if_neg hb]
        exact hget
  | _ =>
      rw [registry_step fun _ => rfl]
      rfl

/-- After a run each algorithm has what was last assigned to it. -/
theorem get?_run (s : Session) (steps : List Step) (a : Algorithm) :
    (s.run steps).2.registry.get? a = s.latest steps a := by
  induction steps generalizing s with
  | nil => rfl
  | cons first rest ih =>
      have hrest := ih (s.step first).2
      rw [latest, get?_step] at hrest
      rw [latest, List.reverse_cons, List.findSome?_append, List.findSome?_singleton]
      refine hrest.trans ?_
      -- What the rest assigns comes later than the first step, which counts only if the rest assigns nothing.
      cases rest.reverse.findSome? (Step.assigns? a) with
      | none => rfl
      | some c => rfl

/-! ### Look-ups -/

variable {name : String} {a : Algorithm} {c : Constructor}

/-- A hasher out of the registry is what its constructor makes of a fresh one, whatever else there is. -/
theorem step_get_of_some (h : s.registry.get? a = some c) :
    (s.step (.get name a)).1 = .found (some c.algorithm) ∧
      (s.step (.get name a)).2.find? name
        = some ⟨(Hasher.start (s.host.backendFor c.algorithm).1 c.algorithm).absorb s.host.platform
            c.absorbed, true⟩ := by
  have hstep : s.step (.get name a) = s.putConstructed name c := by
    simp only [Session.step, h]
  have hmade : (s.host.construct c).1
      = (Hasher.start (s.host.backendFor c.algorithm).1 c.algorithm).absorb s.host.platform c.absorbed := by
    rw [Host.construct, Host.newHasher_eq, Hasher.fresh_nil]
  have halgorithm : (s.host.construct c).1.algorithm = c.algorithm := by
    rw [hmade, Hasher.start_eq_of, Hasher.absorb_of, Hasher.algorithm_of]
  rw [hstep, putConstructed, halgorithm, hmade]
  exact ⟨rfl, find?_put_self _ _ _⟩

theorem step_get_of_none (h : s.registry.get? a = none) : s.step (.get name a) = (.found none, s) := by
  simp only [Session.step, h]

theorem step_getByName_of_error {e : RegistryError} {algorithmName : String}
    (h : Algorithm.ofName algorithmName = .error e) :
    s.step (.getByName name algorithmName) = (.registryError (.unknownAlgorithm algorithmName), s) := by
  obtain ⟨-, hunknown⟩ := Algorithm.ofName_eq_error_iff.mp h
  simp only [Session.step, Registry.getByName, h, hunknown]

theorem step_getByName_of_ok {algorithmName : String} (h : Algorithm.ofName algorithmName = .ok a) :
    s.step (.getByName name algorithmName)
      = if s.registry.get? a = none then (.registryError (.notRegistered a), s)
        else s.step (.get name a) := by
  simp only [Session.step, Registry.getByName, h]
  cases s.registry.get? a with
  | none => rfl
  | some c => rfl

/-- How a session on a platform answers to listing and to looking up, when `assigned` says what is
registered and `listed` is the list. -/
structure LooksUp (t : Session) (p : Platform) (assigned : Algorithm → Option Constructor)
    (listed : List Algorithm) : Prop where
  algorithms : t.step .algorithms = (.algorithms listed, t)
  ascending : Algorithm.Ascending listed
  mem_listed : ∀ a, a ∈ listed ↔ (assigned a).isSome
  isAvailable : ∀ a, t.step (.isAvailable a) = (.bool (decide (a ∈ listed)), t)
  get_none : ∀ name a, assigned a = none → t.step (.get name a) = (.found none, t)
  get_some : ∀ name a c, assigned a = some c →
    let taken := t.step (.get name a)
    let made := Hasher.start (t.host.backendFor c.algorithm).1 c.algorithm
    taken.1 = .found (some c.algorithm) ∧ taken.2.registry = t.registry ∧
      taken.2.find? name = some ⟨made.absorb p c.absorbed, true⟩
  unknown : ∀ name algorithmName e, Algorithm.ofName algorithmName = .error e →
    t.step (.getByName name algorithmName) = (.registryError (.unknownAlgorithm algorithmName), t)
  notRegistered : ∀ name algorithmName a, Algorithm.ofName algorithmName = .ok a → assigned a = none →
    t.step (.getByName name algorithmName) = (.registryError (.notRegistered a), t)
  registered : ∀ name algorithmName a, Algorithm.ofName algorithmName = .ok a → (assigned a).isSome →
    t.step (.getByName name algorithmName) = t.step (.get name a)

theorem looksUp_get? (t : Session) : t.LooksUp t.host.platform t.registry.get? t.registry.algorithms where
  algorithms := rfl
  ascending := t.registry.ascending_algorithms
  mem_listed a := Registry.mem_algorithms_iff
  isAvailable a := by
    have hdecide : decide (a ∈ t.registry.algorithms) = t.registry.isAvailable a := by
      rw [Bool.eq_iff_iff, decide_eq_true_eq, Registry.mem_algorithms_iff]
    rw [hdecide]
    rfl
  get_none name a h := step_get_of_none h
  get_some name a c h := ⟨(step_get_of_some h).1, registry_step fun _ => rfl, (step_get_of_some h).2⟩
  unknown name algorithmName e h := step_getByName_of_error h
  notRegistered name algorithmName a h hnone := by
    rw [step_getByName_of_ok h, if_pos hnone]
  registered name algorithmName a h hsome := by
    rw [step_getByName_of_ok h, if_neg (Option.isSome_iff_ne_none.mp hsome)]

/-! ### Histories -/

theorem run_platform (s : Session) (steps : List Step) :
    (s.run steps).2.host.platform = s.host.platform := by
  induction steps generalizing s with
  | nil => rfl
  | cons first rest ih => exact (ih (s.step first).2).trans (s.step_platform first)

/-- Without clearing, all that was ever registered has something assigned to it. -/
theorem isSome_latest_iff {steps : List Step} (hclear : .clearRegistry ∉ steps) :
    (s.latest steps a).isSome
      ↔ (s.registry.get? a).isSome ∨ ∃ step ∈ steps, (step.assigns? a).isSome := by
  rw [latest]
  cases hlast : steps.reverse.findSome? (Step.assigns? a) with
  | none =>
      rw [List.findSome?_eq_none_iff] at hlast
      constructor
      · exact .inl
      · rintro (hbefore | ⟨step, hstep, hsome⟩)
        · exact hbefore
        · rw [hlast step (List.mem_reverse.mpr hstep)] at hsome
          cases hsome
  | some assigned =>
      obtain ⟨step, hstep, hassigned⟩ := List.exists_of_findSome?_eq_some hlast
      rw [List.mem_reverse] at hstep
      have hsome : (step.assigns? a).isSome := by rw [hassigned]; rfl
      have hne : step ≠ .clearRegistry := fun heq => hclear (heq ▸ hstep)
      exact iff_of_true (Step.isSome_of_assigns? hne hassigned) (.inr ⟨step, hstep, hsome⟩)

/-- The order of a history does not show in the list of what is registered after it. -/
theorem algorithms_of_perm {steps steps' : List Step} (hclear : .clearRegistry ∉ steps)
    (h : steps'.Perm steps) : (s.run steps').2.registry.algorithms = (s.run steps).2.registry.algorithms := by
  refine Registry.algorithms_congr fun a => ?_
  rw [Registry.isAvailable, Registry.isAvailable, get?_run, get?_run, Bool.eq_iff_iff,
    isSome_latest_iff hclear, isSome_latest_iff (h.mem_iff.not.mpr hclear)]
  simp only [h.mem_iff]

/-- After any history a session lists and looks up what the last registration for each algorithm has left.
The list is the one ascending arrangement of the keys, in whatever order a table holds them, and without
clearing it is the same after the same steps in any order. A step that registers nothing and does not clear
leaves the registry as it is. -/
theorem registry_keeps_the_last (s : Session) (steps : List Step) :
    let t := (s.run steps).2
    let listed := t.registry.algorithms
    t.LooksUp s.host.platform (s.latest steps) listed ∧
    (∀ as : List Algorithm, as.Perm (t.registry.entries.map (·.1)) →
      (as.Pairwise fun a b => a.rank ≤ b.rank) → as = listed) ∧
    (∀ steps', .clearRegistry ∉ steps → steps'.Perm steps →
      ((s.run steps').2.step .algorithms).1 = .algorithms listed) ∧
    (∀ step, (∀ a, step.assigns? a = none) → (t.step step).2.registry = t.registry) := by
  intro t listed
  refine ⟨?_, ?_, ?_, ?_⟩
  · have hlatest : t.registry.get? = s.latest steps := funext (get?_run s steps)
    rw [← hlatest, ← run_platform s steps]
    exact looksUp_get? t
  · exact fun as => Registry.algorithms_of_perm
  · intro steps' hclear hperm
    exact congrArg Answer.algorithms (algorithms_of_perm hclear hperm)
  · exact fun step => registry_step

/-- A constructor for another algorithm that has absorbed something, registered while a hasher of the
replaced one is in use. -/
theorem registry_keeps_the_last_overwritten :
    let s := start (.start .generic none)
    let steps : List Step := [.register .md5 (.fresh .md5), .get "h" .md5, .write "h" .boxed [1],
      .register .sha224 (.fresh .sha224), .register .md5 ⟨.sha256, [97, 98, 99]⟩, .reset "h"]
    let t := (s.run steps).2
    (t.step .algorithms).1 = .algorithms [.md5, .sha224] ∧
      ((s.run steps.reverse).2.step .algorithms).1 = .algorithms [.md5, .sha224] ∧
      (t.step (.get "g" .md5)).1 = .found (some .sha256) ∧
      (t.step (.get "g" .md5)).2.find? "g"
        = some ⟨(Hasher.start .portable .sha256).absorb .generic [97, 98, 99], true⟩ ∧
      t.step (.getByName "g" " m_D-5") = t.step (.get "g" .md5) ∧
      t.step (.getByName "g" "SHA-256") = (.registryError (.notRegistered .sha256), t) ∧
      t.step (.getByName "g" "sha1") = (.registryError (.unknownAlgorithm "sha1"), t) ∧
      (t.step (.write "h" .stream [2])).2.registry = t.registry := by
  intro s steps t
  obtain ⟨hlooksUp, harranged, hperm, hkeeps⟩ := registry_keeps_the_last s steps
  have hlisted : [.md5, .sha224] = t.registry.algorithms :=
    harranged [.md5, .sha224] (by decide) (by decide)
  have hclear : .clearRegistry ∉ steps := by simp [steps]
  obtain ⟨hfound, -, hmade⟩ := hlooksUp.get_some "g" .md5 ⟨.sha256, [97, 98, 99]⟩ (by decide)
  refine ⟨?_, ?_, hfound, hmade, ?_, ?_, ?_, hkeeps _ fun _ => rfl⟩
  · rw [hlooksUp.algorithms, hlisted]
  · rw [hperm _ hclear steps.reverse_perm, hlisted]
  · exact hlooksUp.registered "g" " m_D-5" .md5 (by decide) (by decide)
  · exact hlooksUp.notRegistered "g" "SHA-256" .sha256 (by decide) (by decide)
  · exact hlooksUp.unknown "g" "sha1" (.unknownAlgorithm "sha1") (by decide)

end Session

end Checksum
