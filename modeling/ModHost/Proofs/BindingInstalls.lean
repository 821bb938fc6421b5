import ModHost.Proofs.SetupErrors

set_option autoImplicit false

/-!
# Installed bindings

A table of bindings is installed as a whole or not at all. Whether it can be is a matter of its
names and arities alone, whatever the engine has already. The first entry that is at fault, by what
comes before it in the table, gives the error; the engine is then the one it was. An engine in which
a table was installed has the bindings of the table, and those of its own that the table leaves.
-/

namespace ModHost

def AsciiIdentifier (name : String) : Prop :=
  ∃ first rest, name.toList = first :: rest ∧ (first.isAlpha = true ∨ first = '_') ∧
    ∀ c ∈ rest, c.isAlphanum = true ∨ c = '_'

theorem Binding.isLetter_eq (c : Char) : isLetter c = c.isAlpha := by
  have lower : ('a' ≤ c && c ≤ 'z') = c.isLower := rfl
  have upper : ('A' ≤ c && c ≤ 'Z') = c.isUpper := (Bool.decide_and _ _).symm
  rw [isLetter, lower, upper, Bool.or_comm]
  rfl

theorem Binding.isIdentifier_iff {name : String} :
    isIdentifier name = true ↔ AsciiIdentifier name := by
  unfold isIdentifier AsciiIdentifier
  cases name.toList with
  | nil => simp
  | cons first rest =>
    simp only [isLetter_eq, Char.isAlphanum, Bool.and_eq_true, Bool.or_eq_true,
      List.all_eq_true, decide_eq_true_eq]
    constructor
    · intro proper
      exact ⟨first, rest, rfl, proper⟩
    · rintro ⟨_, _, same, proper⟩
      cases same
      exact proper

namespace BindingTable

/-- What is wrong with an entry that stands after others in a table. -/
inductive Offends (before : BindingTable) (b : Binding) : String → Prop
  | identifier (odd : ¬ AsciiIdentifier b.name) :
      Offends before b s!"binding name '{b.name}' is not a valid identifier"
  | shadowing (proper : AsciiIdentifier b.name) (taken : b.name ∈ hostFunctions) :
      Offends before b s!"binding '{b.name}' shadows a host function"
  | repetition (proper : AsciiIdentifier b.name) (free : b.name ∉ hostFunctions)
      (again : b.name ∈ before.map (·.name)) :
      Offends before b s!"binding '{b.name}' is declared twice"
  | arity (proper : AsciiIdentifier b.name) (free : b.name ∉ hostFunctions)
      (new : b.name ∉ before.map (·.name)) (wide : 4 < b.arity) :
      Offends before b
        s!"binding '{b.name}' takes {b.arity} arguments; at most 4 are supported"

/-- A table with nothing wrong in it. -/
structure Installable (t : BindingTable) : Prop where
  identifiers : ∀ b ∈ t, AsciiIdentifier b.name
  free : ∀ b ∈ t, b.name ∉ hostFunctions
  distinct : (t.map (·.name)).Nodup
  narrow : ∀ b ∈ t, b.arity ≤ 4

theorem valid_iff_installable {t : BindingTable} : t.Valid ↔ t.Installable := by
  constructor
  · rintro ⟨identifiers, free, distinct, narrow⟩
    exact ⟨fun b mem => Binding.isIdentifier_iff.1 (identifiers b mem), free, distinct, narrow⟩
  · rintro ⟨identifiers, free, distinct, narrow⟩
    exact ⟨fun b mem => Binding.isIdentifier_iff.2 (identifiers b mem), free, distinct, narrow⟩

section Faults

variable {before t : BindingTable} {b : Binding} {message : String}

theorem text_tooWide (name : String) (arity : Nat) :
    s!"binding '{name}' takes {arity} arguments; at most {maxBindingArity}" ++ " are supported" =
      s!"binding '{name}' takes {arity} arguments; at most 4 are supported" := by
  have most : toString " arguments; at most " ++ toString maxBindingArity ++ " are supported" =
      " arguments; at most 4 are supported" := rfl
  simp only [String.append_assoc] at most ⊢
  rw [most]
  rfl

theorem fault?_of_offends (offends : Offends before b message) :
    b.fault? (before.map (·.name)) = some message := by
  unfold Binding.fault?
  rw [text_tooWide]
  cases offends with
  | identifier odd =>
    rw [← Binding.isIdentifier_iff, Bool.not_eq_true] at odd
    rw [odd]
    rfl
  | shadowing proper taken =>
    rw [if_neg (by simp [Binding.isIdentifier_iff.2 proper]), if_pos (by simpa using taken)]
  | repetition proper free again =>
    rw [if_neg (by simp [Binding.isIdentifier_iff.2 proper]), if_neg (by simpa using free),
      if_pos (List.contains_iff_mem.2 again)]
  | arity proper free new wide =>
    rw [if_neg (by simp [Binding.isIdentifier_iff.2 proper]), if_neg (by simpa using free),
      if_neg (mt List.contains_iff_mem.1 new),
      if_pos (show b.arity > maxBindingArity from wide)]

theorem offends_or_fits (before : BindingTable) (b : Binding) :
    (∃ message, Offends before b message) ∨ b.fault? (before.map (·.name)) = none := by
  by_cases proper : AsciiIdentifier b.name
  · by_cases free : b.name ∈ hostFunctions
    · exact .inl ⟨_, .shadowing proper free⟩
    · by_cases new : b.name ∈ before.map (·.name)
      · exact .inl ⟨_, .repetition proper free new⟩
      · rcases Nat.lt_or_ge 4 b.arity with wide | narrow
        · exact .inl ⟨_, .arity proper free new wide⟩
        · exact .inr (Binding.fault?_eq_none.2
            ⟨Binding.isIdentifier_iff.2 proper, free, new, narrow⟩)
  · exact .inl ⟨_, .identifier proper⟩

theorem fault?_eq_some_iff :
    b.fault? (before.map (·.name)) = some message ↔ Offends before b message := by
  constructor
  · intro fault
    obtain ⟨told, offends⟩ | fits := offends_or_fits before b
    · rw [fault?_of_offends offends] at fault
      cases fault
      exact offends
    · rw [fits] at fault
      cases fault
  · exact fault?_of_offends

theorem firstFault?_eq_some_iff : firstFault? [] t = some message ↔
    ∃ before b after, t = before ++ b :: after ∧ before.Installable ∧ Offends before b message := by
  simp only [firstFault?_eq_some, valid_iff, valid_iff_installable, List.nil_append,
    fault?_eq_some_iff]

end Faults

section Registration

variable {installed t : BindingTable} {name : String} {arity : Nat}

theorem find?_cons (b : Binding) (rest : BindingTable) (name : String) (arity : Nat) :
    BindingTable.find? (b :: rest) name arity =
      if b.name = name ∧ b.arity = arity then some b else rest.find? name arity := by
  unfold BindingTable.find?
  rw [List.find?_cons]
  split <;> simp_all

theorem find?_register (installed : BindingTable) (b : Binding) (name : String) (arity : Nat) :
    (register installed b).find? name arity =
      if b.name = name ∧ b.arity = arity then some b else installed.find? name arity := by
  induction installed with
  | nil => exact find?_cons b [] name arity
  | cons c rest ih =>
    by_cases replaced : c.name = b.name ∧ c.arity = b.arity
    · have same : register (c :: rest) b = register rest b := by simp [register, replaced]
      rw [same, ih, find?_cons, replaced.1, replaced.2]
      split <;> rfl
    · have kept : register (c :: rest) b = c :: register rest b := by
        rw [register, List.filter_cons_of_pos (by simpa [Decidable.imp_iff_not_or] using replaced)]
        rfl
      rw [kept, find?_cons, ih, find?_cons]
      split
      · next here =>
        obtain ⟨rfl, rfl⟩ := here
        rw [if_neg fun same => replaced ⟨same.1.symm, same.2.symm⟩]
      · rfl

theorem find?_of_new {b : Binding} (new : b.name ∉ t.map (·.name)) (arity : Nat) :
    t.find? b.name arity = none := by
  unfold BindingTable.find?
  rw [List.find?_eq_none]
  intro c mem same
  simp only [Bool.and_eq_true, decide_eq_true_eq] at same
  exact new (List.mem_map.2 ⟨c, mem, same.1⟩)

theorem find?_foldl_register (distinct : (t.map (·.name)).Nodup) :
    BindingTable.find? (t.foldl register installed) name arity =
      (t.find? name arity).or (installed.find? name arity) := by
  induction t generalizing installed with
  | nil => rfl
  | cons b rest ih =>
    rw [List.map_cons, List.nodup_cons] at distinct
    rw [List.foldl_cons, ih distinct.2, find?_register, find?_cons]
    by_cases here : b.name = name ∧ b.arity = arity
    · obtain ⟨rfl, rfl⟩ := here
      simp [find?_of_new distinct.1]
    · simp [here]

end Registration

end BindingTable

namespace Script.Env

theorem install_of_installable (env : Env) {t : BindingTable} (fits : t.Installable) :
    (env.install t).1 = .ok t.length ∧
      (env.install t).2.1 = { env with bindings := t.foldl .register env.bindings } := by
  rw [← BindingTable.valid_iff_installable, ← BindingTable.valid_iff] at fits
  unfold install BindingTable.installInto
  rw [fits]
  exact ⟨rfl, rfl⟩

theorem install_of_fault (env : Env) {t : BindingTable} {message : String}
    (fault : BindingTable.firstFault? [] t = some message) :
    (env.install t).1 = .error (.setup message) ∧ (env.install t).2.1 = env := by
  unfold install BindingTable.installInto
  rw [fault]
  exact ⟨rfl, rfl⟩

theorem fault_of_not_installable {t : BindingTable} (unfit : ¬ t.Installable) :
    ∃ message, BindingTable.firstFault? [] t = some message := by
  rw [← BindingTable.valid_iff_installable, ← BindingTable.valid_iff] at unfit
  exact Option.ne_none_iff_exists'.1 unfit

/-- A table is installed exactly when its names are ASCII identifiers, none is a host function's and
no two are the same, and no arity is above four. Calls then reach its entries before others. If
there is an entry at fault, the earliest is told, and the engine is the one it was, so every call
does the same. -/
theorem install_all_or_nothing (env : Env) (t : BindingTable) :
    (∀ n, (env.install t).1 = .ok n ↔ n = t.length ∧ t.Installable) ∧
    (t.Installable → ∀ name arity, (env.install t).2.1.bindings.find? name arity =
      (t.find? name arity).or (env.bindings.find? name arity)) ∧
    (¬ t.Installable →
      (∃ (before : BindingTable) (b : Binding) (after : BindingTable) (message : String),
        t = before ++ b :: after ∧ before.Installable ∧ before.Offends b message ∧
          (env.install t).1 = .error (.setup message)) ∧
      (env.install t).2.1 = env ∧
      ∀ fuel name args isConst pos, callNamed fuel name args isConst pos (env.install t).2.1 =
        callNamed fuel name args isConst pos env) := by
  refine ⟨?_, ?_, ?_⟩
  · intro n
    by_cases fits : t.Installable
    · rw [(env.install_of_installable fits).1, Except.ok.injEq]
      simp [fits, eq_comm]
    · obtain ⟨message, fault⟩ := fault_of_not_installable fits
      rw [(env.install_of_fault fault).1]
      simp [fits]
  · intro fits name arity
    rw [(env.install_of_installable fits).2]
    exact BindingTable.find?_foldl_register fits.distinct
  · intro unfit
    obtain ⟨message, fault⟩ := fault_of_not_installable unfit
    obtain ⟨told, same⟩ := env.install_of_fault fault
    obtain ⟨before, b, after, split, sound, offends⟩ :=
      BindingTable.firstFault?_eq_some_iff.1 fault
    refine ⟨⟨before, b, after, message, split, sound, offends, told⟩, same, ?_⟩
    intro fuel name args isConst pos
    rw [same]

def bare : Env :=
  { program := ⟨[], [], []⟩, source := none, libraries := [], facilities := .none, bindings := [],
    isServer := true, limit := 0, outer := fun _ => none }

def soundHalf : BindingTable :=
  [⟨"good", 0, fun _ => .ok .unit⟩, ⟨"better", 4, fun _ => .ok .unit⟩]

/-- Two entries that fit, and then one with the name of a host function. -/
def halfSound : BindingTable := soundHalf ++ [⟨"log", 1, fun _ => .ok .unit⟩]

theorem soundHalf_fits : soundHalf.Installable :=
  BindingTable.valid_iff_installable.1 (by decide)

theorem halfSound_unfit : ¬ halfSound.Installable := by
  intro fits
  exact fits.free _ (List.mem_of_getElem? (i := 2) rfl) (by decide)

/-- The entries before the faulty one are not installed either, unless they are a table of their
own. -/
theorem halfSound_installs_nothing :
    (bare.install halfSound).1 = .error (.setup "binding 'log' shadows a host function") ∧
      (∀ fuel args isConst pos,
        callNamed fuel "better" args isConst pos (bare.install halfSound).2.1 =
          callNamed fuel "better" args isConst pos bare) ∧
      ((bare.install soundHalf).2.1.bindings.find? "better" 4).isSome = true := by
  obtain ⟨-, -, refused⟩ := install_all_or_nothing bare halfSound
  obtain ⟨-, -, calls⟩ := refused halfSound_unfit
  obtain ⟨-, installed, -⟩ := install_all_or_nothing bare soundHalf
  refine ⟨rfl, fun fuel args isConst pos => calls fuel "better" args isConst pos, ?_⟩
  rw [installed soundHalf_fits]
  rfl

end Script.Env

end ModHost
