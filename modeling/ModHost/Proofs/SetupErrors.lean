import ModHost.Proofs.ConstantRuns
import ModHost.Proofs.HostRuns

set_option autoImplicit false

/-!
# Errors of the setup

A session is set up in three steps that can fail: its libraries are chosen, its bindings are
checked, and the host's constants are run. The first fault is the one that is told. Nothing but
the list of libraries, the table of bindings and the limit of operations matters: the limit holds
for the constants too, so one that leaves no room for them makes every start fail.
-/

namespace ModHost

open Script (Library Position)

structure BindingTable.Valid (t : BindingTable) : Prop where
  identifiers : ∀ b ∈ t, Binding.isIdentifier b.name = true
  free : ∀ b ∈ t, b.name ∉ hostFunctions
  distinct : (t.map (·.name)).Nodup
  narrow : ∀ b ∈ t, b.arity ≤ maxBindingArity

theorem Binding.fault?_eq_none {seen : List String} {b : Binding} :
    b.fault? seen = none ↔ isIdentifier b.name = true ∧ b.name ∉ hostFunctions ∧
      b.name ∉ seen ∧ b.arity ≤ maxBindingArity := by
  unfold fault?
  split <;> simp_all
  split <;> simp_all
  split <;> simp_all

namespace BindingTable

section Entries

variable {seen : List String} {b : Binding} {rest t : BindingTable} {message : String}

theorem firstFault?_of_fault (fault : b.fault? seen = some message) :
    firstFault? seen (b :: rest) = some message := by
  unfold firstFault?
  rw [fault]

theorem firstFault?_of_fits (fits : b.fault? seen = none) :
    firstFault? seen (b :: rest) = firstFault? (seen ++ [b.name]) rest := by
  rw [firstFault?.eq_def]
  dsimp only
  rw [fits]

/-- A table is valid exactly when its first entry fits and the others are valid and leave the name
of the first alone. -/
theorem valid_cons : Valid (b :: rest) ↔ b.fault? [] = none ∧ rest.Valid ∧
    ∀ c ∈ rest, c.name ≠ b.name := by
  rw [Binding.fault?_eq_none]
  constructor
  · rintro ⟨identifiers, free, distinct, narrow⟩
    simp only [List.forall_mem_cons, List.map_cons, List.nodup_cons, List.mem_map] at *
    refine ⟨⟨identifiers.1, free.1, by simp, narrow.1⟩,
      ⟨identifiers.2, free.2, distinct.2, narrow.2⟩, fun c mem same => ?_⟩
    exact distinct.1 ⟨c, mem, same⟩
  · rintro ⟨⟨identifier, unused, -, arity⟩, ⟨identifiers, free, distinct, narrow⟩, apart⟩
    refine ⟨List.forall_mem_cons.2 ⟨identifier, identifiers⟩,
      List.forall_mem_cons.2 ⟨unused, free⟩, List.nodup_cons.2 ⟨fun again => ?_, distinct⟩,
      List.forall_mem_cons.2 ⟨arity, narrow⟩⟩
    obtain ⟨c, mem, same⟩ := List.mem_map.1 again
    exact apart c mem same

theorem firstFault?_eq_none :
    firstFault? seen t = none ↔ t.Valid ∧ ∀ b ∈ t, b.name ∉ seen := by
  induction t generalizing seen with
  | nil => exact ⟨fun _ => ⟨⟨by simp, by simp, by simp, by simp⟩, by simp⟩, fun _ => rfl⟩
  | cons b rest ih =>
    rw [valid_cons, Binding.fault?_eq_none]
    cases fault : b.fault? seen with
    | some message =>
      rw [firstFault?_of_fault fault]
      refine ⟨fun sound => (nomatch sound), ?_⟩
      rintro ⟨⟨⟨identifier, unused, -, arity⟩, -⟩, apart⟩
      rw [Binding.fault?_eq_none.2 ⟨identifier, unused, apart b List.mem_cons_self, arity⟩] at fault
      cases fault
    | none =>
      obtain ⟨identifier, unused, fresh, arity⟩ := Binding.fault?_eq_none.1 fault
      rw [firstFault?_of_fits fault, ih]
      simp only [List.mem_append, List.mem_singleton, not_or, List.forall_mem_cons]
      constructor
      · rintro ⟨valid, apart⟩
        exact ⟨⟨⟨identifier, unused, by simp, arity⟩, valid, fun c mem => (apart c mem).2⟩,
          fresh, fun c mem => (apart c mem).1⟩
      · rintro ⟨⟨-, valid, others⟩, -, apart⟩
        exact ⟨valid, fun c mem => ⟨apart c mem, others c mem⟩⟩

/-- The fault of a table is that of the first entry that has one, after valid entries. -/
theorem firstFault?_eq_some :
    firstFault? seen t = some message ↔ ∃ before b after, t = before ++ b :: after ∧
      firstFault? seen before = none ∧
      b.fault? (seen ++ before.map (·.name)) = some message := by
  induction t generalizing seen with
  | nil => simp [firstFault?]
  | cons c rest ih =>
    cases fault : c.fault? seen with
    | some told =>
      rw [firstFault?_of_fault fault]
      constructor
      · intro same
        rw [same] at fault
        exact ⟨[], c, rest, rfl, rfl, by rwa [List.map_nil, List.append_nil]⟩
      · rintro ⟨_ | ⟨d, before⟩, b, after, split, sound, faulty⟩
        · cases split
          rwa [List.map_nil, List.append_nil, fault] at faulty
        · cases split
          rw [firstFault?_of_fault fault] at sound
          cases sound
    | none =>
      rw [firstFault?_of_fits fault, ih]
      constructor
      · rintro ⟨before, b, after, rfl, sound, faulty⟩
        refine ⟨c :: before, b, after, rfl, (firstFault?_of_fits fault).trans sound, ?_⟩
        rwa [List.map_cons, List.append_cons]
      · rintro ⟨_ | ⟨d, before⟩, b, after, split, sound, faulty⟩
        · cases split
          rw [List.map_nil, List.append_nil, fault] at faulty
          cases faulty
        · cases split
          rw [firstFault?_of_fits fault] at sound
          rw [List.map_cons, List.append_cons] at faulty
          exact ⟨before, b, after, rfl, sound, faulty⟩

end Entries

theorem valid_iff {t : BindingTable} : firstFault? [] t = none ↔ t.Valid := by
  simp [firstFault?_eq_none]

instance (t : BindingTable) : Decidable t.Valid := decidable_of_iff _ valid_iff

end BindingTable

namespace ScriptHost

def allowedLibraries : List String := Library.all.map Library.name

def libraryRefusal (name : String) : ScriptError :=
  let available := ", ".intercalate allowedLibraries
  .setup <|
    if withheldLibraries.contains name then s!"library '{name}' is not available to mod scripts"
    else s!"unknown library '{name}' (available: {available})"

def firstRefused? (names : List String) : Option String :=
  names.find? fun name => name ∉ allowedLibraries

theorem firstRefused?_eq_none {names : List String} :
    firstRefused? names = none ↔ ∀ name ∈ names, name ∈ allowedLibraries := by
  simp [firstRefused?]

theorem isNone_ofName? (name : String) :
    (Library.ofName? name).isNone = decide (name ∉ allowedLibraries) := by
  rw [Bool.eq_iff_iff, Option.isNone_iff_eq_none, decide_eq_true_iff, Library.ofName?,
    List.find?_eq_none, allowedLibraries, List.mem_map]
  simp

theorem chooseLibraries_eq (names : List String) :
    chooseLibraries names =
      match firstRefused? names with
      | some name => .error (libraryRefusal name)
      | none => .ok (names.filterMap Library.ofName?) := by
  induction names with
  | nil => rfl
  | cons name rest ih =>
    have known := isNone_ofName? name
    rw [chooseLibraries, firstRefused?, List.find?_cons, ← known]
    cases found : Library.ofName? name with
    | none =>
      rw [Option.isNone_none]
      dsimp only [libraryRefusal, allowedLibraries]
      split <;> rfl
    | some l =>
      rw [Option.isNone_some, ih]
      simp only [firstRefused?, List.filterMap_cons, found]
      split <;> rfl

theorem chooseLibraries_allowed {names : List String}
    (allowed : ∀ name ∈ names, name ∈ allowedLibraries) :
    chooseLibraries names = .ok (names.filterMap Library.ofName?) := by
  rw [chooseLibraries_eq, firstRefused?_eq_none.2 allowed]

/-- What the setup of a session with a configuration and a table of bindings is refused for, and
the error that is told: the first library that scripts may not have, or else the first faulty
binding, or else the limit, at the place where it stops the constants. -/
inductive SetupRefused (config : ScriptingConfig) (table : BindingTable) : ScriptError → Prop
  | library {name : String} (first : firstRefused? config.libraries = some name) :
      SetupRefused config table (libraryRefusal name)
  | binding {before after : List Binding} {b : Binding} {message : String}
      (libraries : ∀ name ∈ config.libraries, name ∈ allowedLibraries)
      (split : table = before ++ b :: after) (valid : BindingTable.Valid before)
      (faulty : b.fault? (before.map (·.name)) = some message) :
      SetupRefused config table (.setup message)
  | budget {limit : Nat} {p : Position}
      (libraries : ∀ name ∈ config.libraries, name ∈ allowedLibraries) (valid : table.Valid)
      (given : config.maxOperations = some limit) (limited : limit ≠ 0)
      (beyond : constantPlaces[limit]? = some p) :
      SetupRefused config table (budgetFault p)

/-- A configuration and a table of bindings with which a session can be set up. -/
structure SetupAccepted (config : ScriptingConfig) (table : BindingTable) : Prop where
  libraries : ∀ name ∈ config.libraries, name ∈ allowedLibraries
  bindings : table.Valid
  budget : ∀ limit, config.maxOperations = some limit → limit = 0 ∨ 40 ≤ limit

theorem setup_accepted_or (config : ScriptingConfig) (table : BindingTable) :
    SetupAccepted config table ∨ ∃ e, SetupRefused config table e := by
  cases refused : firstRefused? config.libraries with
  | some name => exact .inr ⟨_, .library refused⟩
  | none =>
    have libraries := firstRefused?_eq_none.1 refused
    cases fault : BindingTable.firstFault? [] table with
    | some message =>
      obtain ⟨before, b, after, split, sound, told⟩ := BindingTable.firstFault?_eq_some.1 fault
      exact .inr ⟨_, .binding libraries split (BindingTable.valid_iff.1 sound) told⟩
    | none =>
      have valid := BindingTable.valid_iff.1 fault
      by_cases small : ∃ limit, config.maxOperations = some limit ∧ limit ≠ 0 ∧ limit < 40
      · obtain ⟨limit, given, limited, few⟩ := small
        rw [← length_constantPlaces] at few
        exact .inr ⟨_, .budget libraries valid given limited (List.getElem?_eq_getElem few)⟩
      · refine .inl ⟨libraries, valid, fun limit given => ?_⟩
        have roomy : ¬(limit ≠ 0 ∧ limit < 40) := fun few => small ⟨limit, given, few⟩
        omega

theorem sessionRules_eq (h : ScriptHost) (valid : h.bindings.Valid)
    (libraries : ∀ name ∈ h.config.libraries, name ∈ allowedLibraries) :
    ∃ rules log, sessionRules h = .ok (rules, log) ∧
      rules.limit = h.config.maxOperations.getD 0 := by
  unfold sessionRules
  rw [chooseLibraries_allowed libraries, BindingTable.install, BindingTable.installInto,
    BindingTable.valid_iff.2 valid]
  exact ⟨_, _, rfl, rfl⟩

theorem buildSession_accepted {h : ScriptHost} (accepted : SetupAccepted h.config h.bindings) :
    ∃ session, (buildSession .standard h).1 = .ok session := by
  obtain ⟨rules, log, ruled, limit⟩ := sessionRules_eq h accepted.bindings accepted.libraries
  unfold buildSession
  rw [ruled]
  dsimp only
  split
  · next e failed =>
    obtain ⟨limited, p, beyond, -⟩ := (seedConstants_error _ _ _ _ _).1 failed
    have few := (List.getElem?_eq_some_iff.1 beyond).1
    rw [length_constantPlaces] at few
    cases given : h.config.maxOperations with
    | none => exact absurd (by rw [limit, given]; rfl) limited
    | some n =>
      have roomy := accepted.budget n given
      rw [given, Option.getD_some] at limit
      omega
  · exact ⟨_, rfl⟩

theorem buildSession_refused {h : ScriptHost} {e : ScriptError}
    (refused : SetupRefused h.config h.bindings e) : (buildSession .standard h).1 = .error e := by
  cases refused with
  | @library name first =>
    unfold buildSession sessionRules
    rw [chooseLibraries_eq, first]
    rfl
  | @binding before after b message libraries split valid faulty =>
    have fault := BindingTable.firstFault?_eq_some.2
      ⟨before, b, after, split, BindingTable.valid_iff.2 valid, faulty⟩
    unfold buildSession sessionRules
    rw [chooseLibraries_allowed libraries, BindingTable.install, BindingTable.installInto, fault]
    rfl
  | @budget limit p libraries valid given limited beyond =>
    obtain ⟨rules, log, ruled, bound⟩ := sessionRules_eq h valid libraries
    rw [given, Option.getD_some] at bound
    subst bound
    have stopped := (seedConstants_error rules .empty (h.scene (generatorFor h.config.seed))
      h.players.size (budgetFault p)).2 ⟨limited, p, beyond, rfl⟩
    unfold buildSession
    rw [ruled]
    dsimp only
    rw [stopped]

theorem shutdown_bindings (h : ScriptHost) : h.shutdown.bindings = h.bindings := by
  unfold shutdown
  split <;> rfl

theorem readied_bindings (h : ScriptHost) : h.readied.bindings = h.bindings := shutdown_bindings h

theorem start_setupError (engine : Engine) (files : Files) (h : ScriptHost) :
    (h.start engine files).1.setupError =
      match (buildSession engine h.readied).1 with
      | .error e => some e
      | .ok _ => none := by
  unfold start
  dsimp only
  cases built : buildSession engine h.readied with
  | mk outcome log =>
    cases outcome with
    | error e => rfl
    | ok session =>
      obtain ⟨s, attempts, sb', s', session', -, report, -⟩ :=
        openSession_loading engine files session (h.readied.say log)
      exact congrArg InitReport.setupError report

/-- A start of a host fails in its setup exactly when its libraries, its bindings or its limit of
operations are refused, in this order, and tells just what was refused. Nothing else of its
configuration can make it fail; but a limit from 1 to 39 does, for the host's own constants take
40 operations. -/
theorem setup_error_iff (files : Files) (h : ScriptHost) :
    (∀ e, (h.start .standard files).1.setupError = some e ↔ SetupRefused h.config h.bindings e) ∧
      ((h.start .standard files).1.setupError = none ↔ SetupAccepted h.config h.bindings) := by
  have accepted (sound : SetupAccepted h.config h.bindings) :
      (h.start .standard files).1.setupError = none := by
    rw [← readied_config, ← readied_bindings] at sound
    obtain ⟨session, built⟩ := buildSession_accepted sound
    rw [start_setupError, built]
  have refused {e : ScriptError} (fault : SetupRefused h.config h.bindings e) :
      (h.start .standard files).1.setupError = some e := by
    rw [← readied_config, ← readied_bindings] at fault
    rw [start_setupError, buildSession_refused fault]
  rcases setup_accepted_or h.config h.bindings with sound | ⟨told, fault⟩
  · have none_told := accepted sound
    refine ⟨fun e => ⟨fun failed => ?_, refused⟩, fun _ => sound, accepted⟩
    rw [none_told] at failed
    cases failed
  · have some_told := refused fault
    refine ⟨fun e => ⟨fun failed => ?_, refused⟩, fun fine => ?_, accepted⟩
    · rw [some_told, Option.some.injEq] at failed
      rwa [← failed]
    · rw [some_told] at fine
      cases fine

/-- A stock host with a limit of ten operations, which the sixth constant exceeds. -/
def cramped : ScriptHost :=
  .ofConfig { ScriptingConfig.default with maxPlayers := 0, maxOperations := some 10 }

theorem cramped_refused :
    (∀ name ∈ cramped.config.libraries, name ∈ allowedLibraries) ∧ cramped.bindings.Valid ∧
      (cramped.start .standard Files.empty).1.setupError =
        some (.setup ("host constants failed to evaluate: "
          ++ "Too many operations (line 7, position 1)")) := by
  decide +kernel

end ScriptHost

end ModHost
