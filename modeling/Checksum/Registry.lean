import Checksum.Algorithm.Name
import Checksum.Log.Event
import Checksum.Text.Quoted

/-!
# Registries

A registry says for each registered algorithm how a hasher is constructed. Nothing ties the two: a
constructor may build a hasher of another algorithm, or one that has absorbed something already. The
last registration for an algorithm is the one that holds, and at any time there is at most one entry
for it. A look-up by name first reads the name and then looks the algorithm up, and never changes
the registry.
-/

namespace Checksum

/-- Builds a fresh hasher and lets it absorb some bytes. -/
structure Constructor where
  algorithm : Algorithm
  absorbed : Bytes
  deriving DecidableEq, Repr

/-- Builds a hasher that has absorbed nothing. -/
def Constructor.fresh (a : Algorithm) : Constructor := ⟨a, []⟩

inductive RegistryError where
  | unknownAlgorithm (name : String)
  | notRegistered (algorithm : Algorithm)
  deriving DecidableEq, Repr

def RegistryError.message : RegistryError → String
  | unknownAlgorithm name => "unknown hash algorithm " ++ Text.quote name
  | notRegistered a => "hash algorithm " ++ a.name ++ " is not registered"

/-- Reads a name, which an error repeats as it was given. -/
def Algorithm.ofName (name : String) : Except RegistryError Algorithm :=
  match Algorithm.ofName? name with
  | some a => .ok a
  | none => .error (.unknownAlgorithm name)

theorem Algorithm.ofName_eq_ok_iff {name : String} {a : Algorithm} :
    ofName name = .ok a ↔ ofName? name = some a := by
  rw [ofName]
  cases ofName? name with
  | none => simp
  | some b => simp

theorem Algorithm.ofName_eq_error_iff {name : String} {e : RegistryError} :
    ofName name = .error e ↔ ofName? name = none ∧ e = .unknownAlgorithm name := by
  rw [ofName]
  cases ofName? name with
  | none => simp [eq_comm]
  | some b => simp

structure Registry where
  entries : List (Algorithm × Constructor)
  nodup : (entries.map (·.1)).Nodup

namespace Registry

def empty : Registry := ⟨[], List.nodup_nil⟩

def register (r : Registry) (a : Algorithm) (c : Constructor) : Registry where
  entries := (a, c) :: r.entries.filter (·.1 ≠ a)
  nodup := by
    rw [List.map_cons, List.nodup_cons]
    refine ⟨by simp, ?_⟩
    exact r.nodup.sublist (List.filter_sublist.map _)

/-- What is told when a constructor is registered. -/
def registration (a : Algorithm) : Event :=
  ⟨.trace, "cksum_hash::registry", "registering hash constructor", [("algorithm", a.name)]⟩

def get? (r : Registry) (a : Algorithm) : Option Constructor :=
  (r.entries.find? (·.1 = a)).map (·.2)

def isAvailable (r : Registry) (a : Algorithm) : Bool := (r.get? a).isSome

/-- The registered algorithms in ascending order. -/
def algorithms (r : Registry) : List Algorithm :=
  (r.entries.map (·.1)).mergeSort fun a b => a.rank ≤ b.rank

def getByName (r : Registry) (name : String) : Except RegistryError Constructor :=
  match Algorithm.ofName name with
  | .error e => .error e
  | .ok a =>
      match r.get? a with
      | some c => .ok c
      | none => .error (.notRegistered a)

@[simp] theorem get?_empty (a : Algorithm) : empty.get? a = none := rfl

/-- The last registration for an algorithm holds, and touches no other. -/
theorem get?_register (r : Registry) (a b : Algorithm) (c : Constructor) :
    (r.register a c).get? b = if a = b then some c else r.get? b := by
  simp only [get?, register, List.find?_cons]
  split
  · simp_all
  · rename_i hne
    have hne : a ≠ b := by simpa using hne
    rw [if_neg hne, List.find?_filter]
    congr 2
    funext entry
    by_cases h : entry.1 = b
    · simp [h, Ne.symm hne]
    · simp [h]

end Registry

end Checksum
