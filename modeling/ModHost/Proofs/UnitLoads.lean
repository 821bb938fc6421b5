import ModHost.Proofs.UnitTables

set_option autoImplicit false

/-!
# Loads into a table of units

Loads fill a table of units one after the other, whatever the files, the engine and the sandbox
around the table are at each of them. A load that is refused, because the path has a unit or its
file is no program, has not happened: nothing at all is different after it. Any other load has
added one unit at the end, even if the unit's code failed. So the table and its index stay in step,
and whoever owned the registrations before a load owns them after it.
-/

namespace ModHost

def ScriptError.refuses : ScriptError → Bool
  | compile _ _ | duplicate _ => true
  | runtime _ _ _ | setup _ => false

/-- What a load into a table is asked with: the engine and the files, the sandbox and the scene
around the table, and the path. -/
structure LoadRequest where
  engine : Engine
  files : Files
  rules : Rules
  host : HostNamespace
  hooks : HookRegistry
  activeScope : Option Nat
  scene : Scene
  path : Path

namespace LoadRequest

def sandbox (r : LoadRequest) (t : UnitTable) : Sandbox :=
  ⟨r.rules, r.host, t, r.hooks, r.activeScope⟩

def load (r : LoadRequest) (t : UnitTable) : Except ScriptError Nat × Sandbox × Scene :=
  (r.sandbox t).load r.engine r.files r.scene r.path

/-- What a load has done, as far as the table and its owner are concerned. -/
structure Effect (r : LoadRequest) (t : UnitTable) : Prop where
  answers : (r.load t).1 = .ok t.length ∨
    (∃ origin message stack, (r.load t).1 = .error (.runtime origin message stack)) ∨
    (∃ message, (r.load t).1 = .error (.compile r.path message)) ∨
    (r.load t).1 = .error (.duplicate r.path)
  duplicate : (r.load t).1 = .error (.duplicate r.path) ↔ (t.find r.path).isSome
  /-- A load fails to compile when the file cannot be read as text, or its text is no program. -/
  compile : (∃ message, (r.load t).1 = .error (.compile r.path message)) ↔
    t.find r.path = none ∧ ∀ source, r.files.readText r.path = .ok source →
      ∃ message, r.engine.compile source = .error message
  refused : ∀ e, (r.load t).1 = .error e → e.refuses = true →
    (r.load t).2 = (r.sandbox t, r.scene)
  added : (∀ e, (r.load t).1 = .error e → e.refuses = false) →
    ∃ program memory, (r.load t).2.1.units =
      ⟨t.units ++ [⟨t.length, r.path, program, memory⟩], t.byPath ++ [(r.path, t.length)]⟩
  owner : (r.load t).2.1.hooks.active = r.hooks.active
  scope : (r.load t).2.1.activeScope = r.activeScope

end LoadRequest

theorem Sandbox.compileFile_fails_iff {engine : Engine} {files : Files} {path : Path} :
    (∃ e, compileFile engine files path = .error e) ↔
      ∀ source, files.readText path = .ok source →
        ∃ message, engine.compile source = .error message := by
  unfold compileFile
  cases files.readText path with
  | error e => simp
  | ok source => cases compiled : engine.compile source <;> simp [compiled]

namespace UnitTable

def loaded (t : UnitTable) (requests : List LoadRequest) : UnitTable :=
  requests.foldl (fun t r => (r.load t).2.1.units) t

theorem setMemory_concat (t : UnitTable) (u : ScriptUnit) (index : List (Path × Nat))
    (memory : Script.Memory) :
    setMemory ⟨t.units ++ [u], index⟩ t.length memory =
      ⟨t.units ++ [{ u with memory := memory }], index⟩ := by
  have last : (t.units ++ [u]).modify t.units.length (fun u => { u with memory := memory }) =
      t.units ++ [{ u with memory := memory }] := by
    apply List.ext_getElem?
    intro i
    rw [List.getElem?_modify]
    rcases Nat.lt_trichotomy i t.units.length with before | rfl | after
    · rw [List.getElem?_append_left before, List.getElem?_append_left before]
      simp [Nat.ne_of_gt before]
    · simp
    · have beyond : (t.units ++ [u]).length ≤ i := by
        rw [List.length_append, List.length_singleton]
        omega
      rw [List.getElem?_eq_none beyond, List.getElem?_eq_none (by simpa using beyond)]
      rfl
  rw [setMemory, length, last]

namespace WellIndexed

variable {t : UnitTable}

theorem find_eq_some (wf : t.WellIndexed) {path : Path} {u : ScriptUnit} :
    t.find path = some u ↔ t.get u.id = some u ∧ Path.same u.path path = true := by
  constructor
  · intro found
    rw [wf.find_eq] at found
    have same := List.find?_some found
    exact ⟨wf.get_id (List.mem_of_find?_eq_some found), same⟩
  · rintro ⟨there, same⟩
    rw [← t.find_congr same]
    exact wf.find_path there

theorem units_run (wf : t.WellIndexed) {sb : Sandbox} (here : sb.units = t) {path : Path}
    (fresh : t.find path = none) (program : Script.Program) (r : Script.RunResult) :
    ((sb.add path program).afterRun sb.units.length r).units =
      ⟨t.units ++ [⟨t.length, path, program, r.memory⟩], t.byPath ++ [(path, t.length)]⟩ := by
  subst here
  have index := wf.insert_byPath fresh program sb.host.seed
  have inserted : sb.units.insert path program sb.host.seed =
      ⟨sb.units.units ++ [⟨sb.units.length, path, program, sb.host.seed⟩],
        sb.units.byPath ++ [(path, sb.units.length)]⟩ := by
    rw [← index]
    rfl
  change (sb.units.insert path program sb.host.seed).setMemory sb.units.length r.memory = _
  rw [inserted, setMemory_concat]

theorem effect_of_taken {r : LoadRequest} (taken : (t.find r.path).isSome)
    (answer : r.load t = (.error (.duplicate r.path), r.sandbox t, r.scene)) : r.Effect t where
  answers := .inr (.inr (.inr (congrArg Prod.fst answer)))
  duplicate := iff_of_true (congrArg Prod.fst answer) taken
  compile := by
    rw [answer]
    refine iff_of_false (fun ⟨message, other⟩ => nomatch other) fun ⟨fresh, _⟩ => ?_
    rw [fresh] at taken
    cases taken
  refused _ _ _ := congrArg Prod.snd answer
  added sound := nomatch sound _ (congrArg Prod.fst answer)
  owner := congrArg (·.2.1.hooks.active) answer
  scope := congrArg (·.2.1.activeScope) answer

theorem effect_of_failed {r : LoadRequest} {message : String} (fresh : t.find r.path = none)
    (failed : Sandbox.compileFile r.engine r.files r.path = .error (.compile r.path message))
    (answer : r.load t = (.error (.compile r.path message), r.sandbox t, r.scene)) :
    r.Effect t where
  answers := .inr (.inr (.inl ⟨message, congrArg Prod.fst answer⟩))
  duplicate := by
    rw [answer, fresh]
    exact iff_of_false (fun other => nomatch other) (fun taken => nomatch taken)
  compile := iff_of_true ⟨message, congrArg Prod.fst answer⟩
    ⟨fresh, Sandbox.compileFile_fails_iff.1 ⟨_, failed⟩⟩
  refused _ _ _ := congrArg Prod.snd answer
  added sound := nomatch sound _ (congrArg Prod.fst answer)
  owner := congrArg (·.2.1.hooks.active) answer
  scope := congrArg (·.2.1.activeScope) answer

theorem effect_of_run (wf : t.WellIndexed) {r : LoadRequest} {program : Script.Program}
    (fresh : t.find r.path = none)
    (compiled : Sandbox.compileFile r.engine r.files r.path = .ok program)
    (answer : r.load t = Sandbox.runUnit r.engine (r.sandbox t) r.scene r.path program) :
    r.Effect t := by
  have told : (r.load t).1 = .ok t.length ∨
      ∃ origin message stack, (r.load t).1 = .error (.runtime origin message stack) := by
    rw [answer, Sandbox.runUnit_outcome]
    split
    · exact .inl rfl
    · exact .inr ⟨_, _, _, rfl⟩
  have runs : ∀ e, (r.load t).1 = .error e → e.refuses = false := by
    intro e failed
    obtain sound | ⟨origin, message, stack, fault⟩ := told
    · rw [sound] at failed
      cases failed
    · rw [fault] at failed
      cases failed
      rfl
  have left : (r.load t).2.1 = ((r.sandbox t).add r.path program).afterRun t.length
      (Sandbox.topLevelRun r.engine (r.sandbox t) r.scene r.path program) := by
    rw [answer]
    exact Sandbox.runUnit_sandbox r.engine (r.sandbox t) r.scene r.path program
  exact {
    answers := told.imp_right .inl
    duplicate := by
      rw [fresh]
      exact iff_of_false (fun again => nomatch runs _ again) (fun taken => nomatch taken)
    compile := by
      refine iff_of_false (fun ⟨_, failed⟩ => nomatch runs _ failed) fun ⟨_, unread⟩ => ?_
      obtain ⟨e, failed⟩ := Sandbox.compileFile_fails_iff.2 unread
      rw [compiled] at failed
      cases failed
    refused := fun e failed refuses => nomatch (runs e failed).symm.trans refuses
    added := fun _ => ⟨program, _, by rw [left]; exact wf.units_run rfl fresh program _⟩
    owner := by rw [left]; rfl
    scope := by rw [left]; rfl }

theorem effect (wf : t.WellIndexed) (r : LoadRequest) : r.Effect t := by
  obtain ⟨taken, loaded⟩ | ⟨fresh, message, failed, loaded⟩ | ⟨fresh, program, compiled, loaded⟩ :=
    Sandbox.load_cases r.engine r.files (r.sandbox t) r.scene r.path
  · exact effect_of_taken taken loaded
  · exact effect_of_failed fresh failed loaded
  · exact wf.effect_of_run fresh compiled loaded

theorem load (wf : t.WellIndexed) (r : LoadRequest) : (r.load t).2.1.units.WellIndexed := by
  obtain same | ⟨program, fresh, ran⟩ :=
    Sandbox.load_sandbox r.engine r.files (r.sandbox t) r.scene r.path
  · exact (congrArg (·.units.WellIndexed) same).mpr wf
  · refine (congrArg (·.units.WellIndexed) ran).mpr ?_
    exact (wf.insert fresh program r.host.seed).setMemory _ _

theorem loaded (wf : t.WellIndexed) (requests : List LoadRequest) :
    (t.loaded requests).WellIndexed := by
  induction requests generalizing t with
  | nil => exact wf
  | cons r rest ih => exact ih (wf.load r)

end WellIndexed

/-- Whatever is loaded into a table, its units stand under their numbers, its index names each of
them under its own path and no path twice, and finding agrees with getting. The next load either is
refused and changes nothing at all, or adds one unit at the end under its path; the owner of
registrations and the scope are put back in any case. -/
theorem loads_keep_index (requests : List LoadRequest) :
    let t := empty.loaded requests
    t.WellIndexed ∧
      (∀ path u, t.find path = some u ↔ t.get u.id = some u ∧ Path.same u.path path = true) ∧
      ∀ next : LoadRequest, next.Effect t := by
  intro t
  have wf : t.WellIndexed := wellIndexed_empty.loaded requests
  exact ⟨wf, fun _ _ => wf.find_eq_some, wf.effect⟩

end UnitTable

end ModHost
