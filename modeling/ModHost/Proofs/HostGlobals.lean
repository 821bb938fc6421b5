import Mathlib.Data.List.Induction
import Mathlib.Data.List.Nodup
import ModHost.Proofs.ConstantRuns
import ModHost.Proofs.HostRuns
import ModHost.Proofs.SortedEntries

set_option autoImplicit false

/-!
# Globals of the host

The host's globals are what the constants of a session are when the interpreter has run them,
and the list of the players. Units get copies of these values, so it matters what they are: a
value that refers to a captured variable would be shared by all units. There is none, for every
global is an integer or the list of the players.
-/

namespace ModHost

open Script (Value)

namespace Script.Value

theorem lookup_insert_same (name : String) (value : Value) (entries : List (String × Value)) :
    lookup name (insert name value entries) = some value := by
  induction entries with
  | nil => simp only [insert, lookup, ↓reduceIte]
  | cons e rest ih =>
    unfold insert
    split
    · simp only [lookup, ↓reduceIte]
    · next other =>
      split
      · simp only [lookup, ↓reduceIte]
      · simp only [lookup, Ne.symm other, ↓reduceIte, ih]

theorem lookup_insert_other {name other : String} (differ : other ≠ name) (value : Value)
    (entries : List (String × Value)) :
    lookup other (insert name value entries) = lookup other entries := by
  induction entries with
  | nil => simp only [insert, lookup, differ.symm, ↓reduceIte]
  | cons e rest ih =>
    unfold insert
    split
    · next same =>
      subst same
      simp only [lookup, differ.symm, ↓reduceIte]
    · split
      · simp only [lookup, differ.symm, ↓reduceIte]
      · simp only [lookup, ih]

theorem lookup_isSome_iff (name : String) (entries : List (String × Value)) :
    (lookup name entries).isSome = true ↔ name ∈ entries.map (·.1) := by
  induction entries with
  | nil => simp [lookup]
  | cons e rest ih =>
    rw [lookup, List.map_cons, List.mem_cons, ← ih]
    split
    · next here => simp [here]
    · next other => simp [Ne.symm other]

end Script.Value

namespace HostNamespace

theorem get_define_same (h : HostNamespace) (name : String) (value : Value) :
    (h.define name value).get name = some value := Value.lookup_insert_same name value h.globals

theorem get_define_other (h : HostNamespace) {name other : String} (differ : other ≠ name)
    (value : Value) : (h.define name value).get other = h.get other :=
  Value.lookup_insert_other differ value h.globals

/-- The latest variable of a name counts, and what the host had before counts where the scope has
none. -/
theorem get_absorb (h : HostNamespace) (scope : List (String × Value)) (name : String) :
    (h.absorb scope).get name =
      ((scope.reverse.find? (·.1 = name)).map (·.2)).or (h.get name) := by
  induction scope using List.reverseRecOn with
  | nil => rfl
  | append_singleton scope e ih =>
    have last : h.absorb (scope ++ [e]) = (h.absorb scope).define e.1 e.2 := by
      unfold absorb
      rw [List.foldl_append]
      rfl
    rw [last, List.reverse_concat, List.find?_cons]
    by_cases here : e.1 = name
    · subst here
      simp [get_define_same]
    · simp only [here, decide_false]
      rw [get_define_other _ (Ne.symm here), ih]

theorem get_absorb_of_mem (h : HostNamespace) {scope : List (String × Value)}
    (distinct : (scope.map (·.1)).Nodup) {e : String × Value} (mem : e ∈ scope) :
    (h.absorb scope).get e.1 = some e.2 := by
  have there : (scope.reverse.find? (·.1 = e.1)).isSome :=
    List.find?_isSome.2 ⟨e, List.mem_reverse.2 mem, decide_eq_true rfl⟩
  obtain ⟨d, found⟩ := Option.isSome_iff_exists.1 there
  have same : d = e := List.inj_on_of_nodup_map distinct
    (List.mem_reverse.1 (List.mem_of_find?_eq_some found)) mem
    (by simpa using List.find?_some found)
  rw [get_absorb, found, same]
  rfl

theorem sorted_define {h : HostNamespace} (name : String) (value : Value)
    (sorted : h.globals.Pairwise fun d e => d.1 < e.1) :
    (h.define name value).globals.Pairwise fun d e => d.1 < e.1 := by
  change (Value.insert name value h.globals).Pairwise _
  rw [Value.insert_eq]
  exact sorted_insertEntry name value sorted

theorem sorted_absorb {h : HostNamespace} (entries : List (String × Value))
    (sorted : h.globals.Pairwise fun d e => d.1 < e.1) :
    (h.absorb entries).globals.Pairwise fun d e => d.1 < e.1 := by
  induction entries generalizing h with
  | nil => exact sorted
  | cons e rest ih => exact ih (sorted_define e.1 e.2 sorted)

theorem mem_define {h : HostNamespace} {name : String} {value : Value} {e : String × Value}
    (mem : e ∈ (h.define name value).globals) : e = (name, value) ∨ e ∈ h.globals := by
  change e ∈ Value.insert name value h.globals at mem
  rw [Value.insert_eq] at mem
  exact mem_insertEntry mem

theorem mem_of_get {h : HostNamespace} {name : String} {v : Value} (found : h.get name = some v) :
    (name, v) ∈ h.globals := by
  obtain ⟨entries⟩ := h
  change Value.lookup name entries = some v at found
  induction entries with
  | nil => cases found
  | cons d rest ih =>
    unfold Value.lookup at found
    split at found
    · grind
    · exact List.mem_cons_of_mem d (ih found)

/-- What holds of the values of a scope and of the globals holds of them together. -/
theorem mem_absorb {Q : Value → Prop} {h : HostNamespace} {scope : List (String × Value)}
    (old : ∀ e ∈ h.globals, Q e.2) (new : ∀ e ∈ scope, Q e.2) :
    ∀ e ∈ (h.absorb scope).globals, Q e.2 := by
  induction scope generalizing h with
  | nil => exact old
  | cons d rest ih =>
    refine ih (h := h.define d.1 d.2) ?_ fun e mem => new e (List.mem_cons_of_mem d mem)
    intro e mem
    rcases mem_define mem with rfl | mem
    · exact new d List.mem_cons_self
    · exact old e mem

/-- Every global with which a session of the interpreter begins is an integer or the list of the
players, so none refers to a captured variable. -/
theorem Seeded.value {host : HostNamespace} (seeded : host.Seeded .standard) {name : String}
    {v : Value} (found : host.get name = some v) :
    (∃ n, v = .int n) ∨ ∃ players, v = ScriptHost.playerStates players := by
  obtain ⟨rules, s, maxPlayers, constants, players, made, rfl⟩ := seeded
  rcases mem_define (mem_of_get found) with players | constant
  · exact .inr ⟨_, congrArg Prod.snd players⟩
  · rw [seedConstants_eq made] at constant
    refine .inl (mem_absorb (Q := fun v => ∃ n, v = .int n) (h := empty)
      (fun _ none => absurd none List.not_mem_nil) (fun e mem => ?_) _ constant)
    obtain ⟨c, -, rfl⟩ := List.mem_map.1 mem
    exact ⟨c.value, rfl⟩

end HostNamespace

end ModHost
