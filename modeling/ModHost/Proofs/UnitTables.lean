import ModHost.Proofs.HostRuns

set_option autoImplicit false

/-!
# Tables of units

A table keeps its units by number and finds them by path, through an index of its own. In every
table that comes about the two agree: the units stand under their numbers, the index names each
unit under its path, and no path is there twice. Then looking up a path is looking for it among
the units, a new unit joins the others at the end, and a change of one unit's memory is seen
under its path alone.
-/

namespace ModHost

open Script (Memory Program RunResult)

namespace UnitTable

theorem find_congr (t : UnitTable) {p q : Path} (same : Path.same p q = true) :
    t.find p = t.find q := by
  have alike (e : Path × Nat) : Path.same e.1 p = Path.same e.1 q := by
    rw [Path.same_comm, Path.same_congr same, Path.same_comm]
  simp only [find, alike]

theorem get_setMemory {t : UnitTable} {id : Nat} {u : ScriptUnit} (found : t.get id = some u)
    (memory : Memory) : (t.setMemory id memory).get id = some { u with memory := memory } := by
  unfold get at found ⊢
  simp [UnitTable.setMemory, found]

/-- Units stand under their numbers, and the index names each of them under its own path. -/
structure WellIndexed (t : UnitTable) : Prop where
  numbered : ∀ (id : Nat) (u : ScriptUnit), t.get id = some u → u.id = id
  indexed : t.byPath = t.units.map fun u => (u.path, u.id)
  distinct : t.units.Pairwise fun u v => Path.same u.path v.path = false

theorem wellIndexed_empty : empty.WellIndexed where
  numbered _ _ found := by cases found
  indexed := rfl
  distinct := .nil

namespace WellIndexed

variable {t : UnitTable}

theorem get_id (wf : t.WellIndexed) {u : ScriptUnit} (mem : u ∈ t.units) :
    t.get u.id = some u := by
  obtain ⟨id, found⟩ := List.mem_iff_getElem?.1 mem
  rwa [wf.numbered id u found]

theorem eq_of_same (wf : t.WellIndexed) {u v : ScriptUnit} (hu : u ∈ t.units) (hv : v ∈ t.units)
    (same : Path.same u.path v.path = true) : u = v := by
  obtain ⟨i, hi, rfl⟩ := List.getElem_of_mem hu
  obtain ⟨j, hj, rfl⟩ := List.getElem_of_mem hv
  have apart := List.pairwise_iff_getElem.1 wf.distinct
  rcases Nat.lt_trichotomy i j with before | rfl | after
  · simp [apart i j hi hj before] at same
  · rfl
  · rw [Path.same_comm] at same
    simp [apart j i hj hi after] at same

theorem find_eq (wf : t.WellIndexed) (path : Path) :
    t.find path = t.units.find? fun u => Path.same u.path path := by
  rw [find, wf.indexed, List.find?_map]
  change (Option.map _ (t.units.find? fun u => Path.same u.path path)).bind _ = _
  cases found : t.units.find? fun u => Path.same u.path path with
  | none => rfl
  | some u => exact wf.get_id (List.mem_of_find?_eq_some found)

theorem find_isSome (wf : t.WellIndexed) (path : Path) :
    (t.find path).isSome ↔ ∃ p ∈ t.paths, Path.same p path = true := by
  rw [wf.find_eq, List.find?_isSome]
  constructor
  · rintro ⟨u, hu, same⟩
    exact ⟨u.path, List.mem_map_of_mem hu, same⟩
  · rintro ⟨_, mem, same⟩
    obtain ⟨u, hu, rfl⟩ := List.mem_map.1 mem
    exact ⟨u, hu, same⟩

theorem find_none (wf : t.WellIndexed) {path : Path} (fresh : t.find path = none) :
    ∀ u ∈ t.units, Path.same u.path path = false := by
  rw [wf.find_eq, List.find?_eq_none] at fresh
  simpa using fresh

theorem find_path (wf : t.WellIndexed) {id : Nat} {u : ScriptUnit} (found : t.get id = some u) :
    t.find u.path = some u := by
  have here : u ∈ t.units := List.mem_of_getElem? found
  obtain ⟨v, hit⟩ := Option.isSome_iff_exists.1
    ((wf.find_isSome u.path).2 ⟨u.path, List.mem_map_of_mem here, Path.same_refl u.path⟩)
  have matched := hit
  rw [wf.find_eq] at matched
  have same := List.find?_some matched
  rw [hit, wf.eq_of_same (List.mem_of_find?_eq_some matched) here same]

theorem insert_byPath (wf : t.WellIndexed) {path : Path} (fresh : t.find path = none)
    (program : Program) (memory : Memory) :
    (t.insert path program memory).byPath = t.byPath ++ [(path, t.length)] := by
  have kept : t.byPath.filter (fun e => !Path.same e.1 path) = t.byPath := by
    rw [List.filter_eq_self, wf.indexed]
    intro e mem
    obtain ⟨u, hu, rfl⟩ := List.mem_map.1 mem
    simp [wf.find_none fresh u hu]
  rw [insert, kept]

theorem insert (wf : t.WellIndexed) {path : Path} (fresh : t.find path = none)
    (program : Program) (memory : Memory) : (t.insert path program memory).WellIndexed where
  numbered id u found := by
    change (t.units ++ [⟨t.length, path, program, memory⟩])[id]? = some u at found
    rw [List.getElem?_append] at found
    split at found
    · exact wf.numbered id u found
    · obtain ⟨here, rfl⟩ := List.getElem?_eq_some_iff.1 found
      simp only [List.length_singleton, length, List.getElem_singleton] at here ⊢
      omega
  indexed := by
    rw [wf.insert_byPath fresh, wf.indexed]
    simp [UnitTable.insert]
  distinct := by
    refine List.pairwise_append.2 ⟨wf.distinct, List.pairwise_singleton _ _, ?_⟩
    intro u hu v hv
    rw [List.mem_singleton.1 hv]
    exact wf.find_none fresh u hu

theorem find_insert (wf : t.WellIndexed) {path : Path} (fresh : t.find path = none)
    (program : Program) (memory : Memory) {other : Path} (apart : Path.same path other = false) :
    (t.insert path program memory).find other = t.find other := by
  rw [(wf.insert fresh program memory).find_eq, wf.find_eq]
  simp [UnitTable.insert, apart]

theorem of_scripts {t' : UnitTable} (wf : t.WellIndexed) (same : t'.scripts = t.scripts)
    (index : t'.byPath = t.byPath) : t'.WellIndexed where
  numbered id u found := by
    have script := get_script same id
    rw [found] at script
    obtain ⟨v, old, alike⟩ := Option.map_eq_some_iff.1 script.symm
    exact (congrArg (·.1) alike).symm.trans (wf.numbered id v old)
  indexed := by
    have entries := congrArg (List.map fun s => (s.2.1, s.1)) same
    rw [scripts, scripts, List.map_map, List.map_map] at entries
    rw [index, wf.indexed]
    exact entries.symm
  distinct := by
    have paths := congrArg (List.Pairwise fun s s' => Path.same s.2.1 s'.2.1 = false) same
    rw [scripts, scripts, List.pairwise_map, List.pairwise_map] at paths
    exact paths ▸ wf.distinct

theorem setMemory (wf : t.WellIndexed) (id : Nat) (memory : Memory) :
    (t.setMemory id memory).WellIndexed :=
  wf.of_scripts (scripts_setMemory t id memory) rfl

theorem find_setMemory (wf : t.WellIndexed) {id : Nat} {u : ScriptUnit} (found : t.get id = some u)
    (memory : Memory) {other : Path} (apart : Path.same u.path other = false) :
    (t.setMemory id memory).find other = t.find other := by
  have index : (t.setMemory id memory).byPath = t.byPath := rfl
  rw [find, find, index, wf.indexed, List.find?_map]
  change (Option.map _ (t.units.find? fun v => Path.same v.path other)).bind _ =
    (Option.map _ (t.units.find? fun v => Path.same v.path other)).bind _
  cases hit : t.units.find? fun v => Path.same v.path other with
  | none => rfl
  | some v =>
    have mem := List.mem_of_find?_eq_some hit
    have matched := List.find?_some hit
    have differ : id ≠ v.id := by
      rintro rfl
      rw [wf.get_id mem, Option.some.injEq] at found
      rw [found, apart] at matched
      cases matched
    change (t.units.modify id _)[v.id]? = t.units[v.id]?
    simp [differ]

end WellIndexed

end UnitTable

theorem Sandbox.kept_wellIndexed {engine : Engine} :
    Sandbox.Kept engine fun sb => sb.units.WellIndexed :=
  .of_afterRun (fun _ _ => UnitTable.wellIndexed_empty)
    (fun _ _ _ fresh wf => wf.insert fresh _ _) (fun _ unit r _ wf => wf.setMemory unit r.memory)

end ModHost
