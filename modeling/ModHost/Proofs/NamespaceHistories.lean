import Mathlib.Data.Finset.Card
import Mathlib.Data.String.Basic
import ModHost.Proofs.HostGlobals
import ModHost.Proofs.PublishedPlayers

set_option autoImplicit false

/-!
# Histories of namespaces

The host defines names, takes over the variables of whole scopes, and makes units, in any order. A
unit copies the globals that are there when it is made, and asks the host for a name that it has no
copy of. So what a unit sees of a name depends on what was done with the name before the unit was
made; only if nothing was, it sees what is done later.
-/

namespace ModHost

open Script (Value Variable Memory)

/-- A value of its own, not a reference to a captured variable. -/
abbrev OwnValue := { v : Value // ∀ c, v ≠ .shared c }

structure ScopeVariable where
  name : String
  value : OwnValue
  isConst : Bool

/-- A host's globals, and the units that were made over them, with the memories with which they
were made. -/
structure Namespaces where
  host : HostNamespace
  units : List Memory

namespace Namespaces

/-- Something that is done with namespaces. A scope lists its variables from the earliest on; a
later one hides earlier ones of its name. -/
inductive Use where
  | define (name : String) (value : OwnValue)
  | absorb (scope : List ScopeVariable)
  | unit

namespace Use

def names : Use → List String
  | define name _ => [name]
  | absorb scope => scope.map (·.name)
  | unit => []

def given? (name : String) : Use → Option Value
  | define other value => if other = name then some value.1 else none
  | absorb scope => (scope.reverse.find? (·.name = name)).map (·.value.1)
  | unit => none

def makesUnit : Use → Bool
  | unit => true
  | _ => false

end Use

/-- The value that was given to a name last. -/
def latest (us : List Use) (name : String) : Option Value :=
  us.reverse.findSome? (·.given? name)

def step (s : Namespaces) : Use → Namespaces
  | .define name value => { s with host := s.host.define name value.1 }
  | .absorb scope => { s with host := s.host.absorb (scope.map fun v => (v.name, v.value.1)) }
  | .unit => { s with units := s.units ++ [s.host.seed] }

def after (us : List Use) : Namespaces := us.foldl step ⟨.empty, []⟩

theorem after_concat (us : List Use) (u : Use) : after (us ++ [u]) = (after us).step u :=
  List.foldl_append

theorem latest_concat (us : List Use) (u : Use) (name : String) :
    latest (us ++ [u]) name = (u.given? name).or (latest us name) := by
  rw [latest, List.reverse_concat, List.findSome?_cons]
  cases u.given? name <;> rfl

theorem get_step (s : Namespaces) (u : Use) (name : String) :
    (s.step u).host.get name = (u.given? name).or (s.host.get name) := by
  cases u with
  | define other value =>
    by_cases same : other = name
    · subst same
      simp [step, Use.given?, HostNamespace.get_define_same]
    · simp [step, Use.given?, same, HostNamespace.get_define_other _ (Ne.symm same)]
  | absorb scope =>
    rw [step, HostNamespace.get_absorb, ← List.map_reverse, List.find?_map, Option.map_map]
    rfl
  | unit => rfl

theorem get_after (us : List Use) (name : String) :
    (after us).host.get name = latest us name := by
  induction us using List.reverseRecOn with
  | nil => rfl
  | append_singleton us u ih => rw [after_concat, get_step, ih, latest_concat]

theorem given?_isSome_iff (u : Use) (name : String) :
    (u.given? name).isSome = true ↔ name ∈ u.names := by
  cases u with
  | define other value =>
    rw [Use.given?, Use.names, List.mem_singleton]
    split
    · next same => simp [same]
    · next apart => simp [Ne.symm apart]
  | absorb scope => simp [Use.given?, Use.names]
  | unit => simp [Use.given?, Use.names]

theorem latest_isSome_iff (us : List Use) (name : String) :
    (latest us name).isSome = true ↔ name ∈ us.flatMap Use.names := by
  rw [latest, List.findSome?_isSome_iff, List.mem_flatMap]
  simp only [List.mem_reverse, given?_isSome_iff]

theorem sorted_step {s : Namespaces} (sorted : s.host.globals.Pairwise fun d e => d.1 < e.1)
    (u : Use) : (s.step u).host.globals.Pairwise fun d e => d.1 < e.1 := by
  cases u with
  | define name value => exact HostNamespace.sorted_define name value.1 sorted
  | absorb scope => exact HostNamespace.sorted_absorb _ sorted
  | unit => exact sorted

theorem sorted_after (us : List Use) :
    (after us).host.globals.Pairwise fun d e => d.1 < e.1 := by
  induction us using List.reverseRecOn with
  | nil => exact .nil
  | append_singleton us u ih => exact after_concat us u ▸ sorted_step ih u

theorem nodup_after (us : List Use) : ((after us).host.globals.map (·.1)).Nodup :=
  List.pairwise_map.2 ((sorted_after us).imp fun below => ne_of_lt below)

theorem length_after (us : List Use) :
    (after us).host.length = (us.flatMap Use.names).toFinset.card := by
  have same : ((after us).host.globals.map (·.1)).toFinset = (us.flatMap Use.names).toFinset := by
    ext name
    rw [List.mem_toFinset, List.mem_toFinset, ← Value.lookup_isSome_iff, ← latest_isSome_iff,
      ← get_after]
    rfl
  rw [← same, List.toFinset_card_of_nodup (nodup_after us), List.length_map]
  rfl

theorem own_after (us : List Use) : ∀ e ∈ (after us).host.globals, ∀ c, e.2 ≠ .shared c := by
  induction us using List.reverseRecOn with
  | nil => exact fun e none => absurd none List.not_mem_nil
  | append_singleton us u ih =>
    rw [after_concat]
    cases u with
    | define name value =>
      intro e mem
      rcases HostNamespace.mem_define mem with rfl | old
      · exact value.2
      · exact ih e old
    | absorb scope =>
      refine HostNamespace.mem_absorb (Q := fun v => ∀ c, v ≠ .shared c) ih ?_
      intro e mem
      obtain ⟨v, -, rfl⟩ := List.mem_map.1 mem
      exact v.value.2
    | unit => exact ih

theorem held_seed {h : HostNamespace} (distinct : (h.globals.map (·.1)).Nodup) (name : String) :
    h.seed.held name = h.get name := by
  obtain ⟨entries⟩ := h
  change ((entries.map _).reverse.find? _).map _ = Value.lookup name entries
  induction entries with
  | nil => rfl
  | cons e rest ih =>
    rw [List.map_cons, List.nodup_cons] at distinct
    rw [List.map_cons, List.reverse_cons, List.find?_append, Option.map_or, ih distinct.2,
      Value.lookup]
    by_cases here : e.1 = name
    · subst here
      have absent : Value.lookup e.1 rest = none := by
        rw [← Option.not_isSome_iff_eq_none, Value.lookup_isSome_iff]
        exact distinct.1
      simp [absent]
    · simp [here]

theorem lookup_seed (us : List Use) (name : String) :
    (after us).host.seed.lookup name = latest us name := by
  rw [Memory.lookup, held_seed (nodup_after us), get_after]
  cases given : latest us name with
  | none => rfl
  | some v =>
    have own := own_after us (name, v) (HostNamespace.mem_of_get ((get_after us name).trans given))
    cases v with
    | shared c => exact absurd rfl (own c)
    | _ => rfl

theorem units_step (s : Namespaces) (u : Use) : s.units <+: (s.step u).units := by
  cases u with
  | define | absorb => exact List.prefix_rfl
  | unit => exact List.prefix_append _ _

theorem units_after (us more : List Use) : (after us).units <+: (after (us ++ more)).units := by
  induction more using List.reverseRecOn with
  | nil => rw [List.append_nil]
  | append_singleton more u ih =>
    rw [← List.append_assoc, after_concat]
    exact ih.trans (units_step _ u)

theorem length_units (us : List Use) : (after us).units.length = us.countP Use.makesUnit := by
  induction us using List.reverseRecOn with
  | nil => rfl
  | append_singleton us u ih =>
    rw [after_concat, List.countP_append, ← ih]
    cases u with
    | define | absorb => rfl
    | unit => exact List.length_append

/-- The unit that is made by the last use has copies of the globals of this moment. -/
theorem unit_after (before later : List Use) :
    (after (before ++ .unit :: later)).units[before.countP Use.makesUnit]? =
      some (after before).host.seed := by
  have made : (after (before ++ [.unit])).units =
      (after before).units ++ [(after before).host.seed] :=
    congrArg Namespaces.units (after_concat before .unit)
  obtain ⟨more, kept⟩ := units_after (before ++ [.unit]) later
  rw [made, List.append_assoc, List.append_assoc] at kept
  change (after (before ++ ([.unit] ++ later))).units[_]? = _
  rw [← kept, ← length_units, List.getElem?_append_right (Nat.le_refl _), Nat.sub_self]
  rfl

/-- What a unit sees that was made in the course of some uses, before any script has run in it: of
a name that was defined when it was made the value of that moment, of another the value that the
host has now. All that it has are variables of its own, no constants. -/
structure Sees (before later : List Use) (m : Memory) : Prop where
  known : ∀ name v, latest before name = some v →
    lookupName (after (before ++ .unit :: later)).host m name = some v
  unknown : ∀ name, latest before name = none →
    lookupName (after (before ++ .unit :: later)).host m name =
      latest (before ++ .unit :: later) name
  writable : ∀ v ∈ m.vars, v.isConst = false

theorem sees_seed (before later : List Use) : Sees before later (after before).host.seed where
  known name v given := by rw [lookupName, lookup_seed, given]
  unknown name given := by rw [lookupName, lookup_seed, given]; exact get_after _ name
  writable v mem := by
    obtain ⟨e, -, rfl⟩ := List.mem_map.1 (List.mem_reverse.1 mem)
    rfl

/-- After any uses the host has the latest value of each name, and as many globals as names were
ever defined. Each unit has copies of what the host had when it was made, and sees the host for
all other names. -/
theorem namespaces_follow_history (us : List Use) :
    (∀ name, (after us).host.get name = latest us name) ∧
    (∀ before later, us = before ++ .unit :: later →
      ∃ m, (after us).units[before.countP Use.makesUnit]? = some m ∧ Sees before later m) ∧
    (after us).host.length = (us.flatMap Use.names).toFinset.card := by
  refine ⟨get_after us, ?_, length_after us⟩
  rintro before later rfl
  exact ⟨_, unit_after before later, sees_seed before later⟩

def number (n : Int64) : OwnValue := ⟨.int n, fun _ => nofun⟩

/-- Before a unit is made the host knows `x`; after it, it takes over a scope in which `x` is there
twice. -/
def shadowedScope : List Use :=
  [.absorb [⟨"x", number 2, true⟩, ⟨"y", number 3, false⟩, ⟨"x", number 4, false⟩]]

theorem shadowedScope_sees :
    (after ([.define "x" (number 1)] ++ .unit :: shadowedScope)).host.get "x" = some (.int 4) ∧
      ∃ m, (after ([.define "x" (number 1)] ++ .unit :: shadowedScope)).units[0]? = some m ∧
        lookupName (after ([.define "x" (number 1)] ++ .unit :: shadowedScope)).host m "x" =
          some (.int 1) ∧
        lookupName (after ([.define "x" (number 1)] ++ .unit :: shadowedScope)).host m "y" =
          some (.int 3) := by
  obtain ⟨host, units, -⟩ :=
    namespaces_follow_history ([.define "x" (number 1)] ++ .unit :: shadowedScope)
  obtain ⟨m, here, sees⟩ := units _ shadowedScope rfl
  exact ⟨host "x", m, here, sees.known "x" _ rfl, sees.unknown "y" rfl⟩

end Namespaces

end ModHost
