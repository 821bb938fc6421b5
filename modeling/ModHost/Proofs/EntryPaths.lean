import Mathlib.Data.List.Forall2
import ModHost.Programs
import ModHost.Proofs.FilePlaces

set_option autoImplicit false

/-!
# Paths of the scripts in a list

The entries of a configuration are taken from the directory of its file, and so are those of a
fixture. The one moves the relative entries of both its tables, the other joins every path that it
looks at, and both come to the same. A list of scripts thus means the same files to the host and to
the harness.
-/

namespace ModHost

namespace ModEntry

def below (dir : Path) (e : ModEntry) : ModEntry := { e with path := Path.join dir e.path }

theorem below_absolute {e : ModEntry} (absolute : Path.isAbsolute e.path = true) (dir : Path) :
    e.below dir = e := by
  rw [below, Path.join_absolute dir absolute]

end ModEntry

namespace ModTables

theorem rebase_eq (t : ModTables) (dir : Path) :
    t.rebase dir = ⟨t.local.map (·.below dir), t.remote.map (·.below dir)⟩ := by
  have move (e : ModEntry) :
      (if Path.isAbsolute e.path then e else { e with path := Path.join dir e.path }) =
        e.below dir := by
    split
    · next absolute => rw [ModEntry.below_absolute absolute]
    · rfl
  simp only [rebase, move]

theorem select_rebase (t : ModTables) (dir : Path) (role : HostRole) :
    (t.rebase dir).select role = (t.select role).map (·.below dir) := by
  rw [rebase_eq]
  cases role <;> rfl

end ModTables

/-- Entries that mean the same file, unless the path of one is too long to be looked up. -/
structure ModEntry.Agree (files : Files) (e e' : ModEntry) : Prop where
  enabled : e.enabled = e'.enabled
  file : e.path.utf8ByteSize ≤ 4095 → e'.path.utf8ByteSize ≤ 4095 →
    files.file? e.path = files.file? e'.path

def Files.SameDir (f : Files) (d d' : Path) : Prop := ∃ l, f.Enters d l ∧ f.Enters d' l

theorem Files.SameDir.agree {files : Files} {d d' : Path} (same : files.SameDir d d')
    (e : ModEntry) : (e.below d).Agree files (e.below d') where
  enabled := rfl
  file short short' :=
    have ⟨_, enters, enters'⟩ := same
    enters.file?_join enters' short short'

namespace ScriptingConfig

variable {files : Files} {path : Path} {c : ScriptingConfig}

/-- What the document in a file says, before anything is made of it. -/
def Written (files : Files) (path : Path) (w : ScriptingConfig) : Prop :=
  ∃ bytes j, files.readBytes path = .ok bytes ∧ shape.readText false bytes.toList = .ok j ∧
    w = ofJson j

theorem Written.there {w : ScriptingConfig} (written : Written files path w) :
    (files.file? path).isSome = true := by
  obtain ⟨bytes, j, read, -⟩ := written
  unfold Files.readBytes at read
  cases found : files.lookup path with
  | error e =>
    rw [found] at read
    cases read
  | ok node =>
    cases node with
    | dir changes =>
      rw [found] at read
      cases read
    | file content modified => exact Option.isSome_of_eq_some (Files.file?_eq_some.2 found)

theorem written_of_load (loaded : load files path = .ok c) : ∃ w, Written files path w := by
  cases read : files.readBytes path with
  | error e =>
    rw [load, read] at loaded
    cases loaded
  | ok bytes =>
    cases parsed : shape.readText false bytes.toList with
    | error e =>
      rw [load, read] at loaded
      dsimp only at loaded
      rw [parsed] at loaded
      cases loaded
    | ok j => exact ⟨ofJson j, bytes, j, read, parsed, rfl⟩

theorem load_of_written {w : ScriptingConfig} {dir : Path} (written : Written files path w)
    (parent : Path.parent? path = some dir) :
    load files path =
      if w.maxPlayers > maxPlayerSlots then .error (.tooManyPlayers path w.maxPlayers)
      else .ok { w with mods := w.mods.rebase dir } := by
  obtain ⟨bytes, j, read, parsed, rfl⟩ := written
  rw [load, read]
  dsimp only
  rw [parsed]
  dsimp only
  rw [parent]

theorem load_eq_ok : load files path = .ok c ↔ ∃ w dir, Written files path w ∧
    w.maxPlayers ≤ maxPlayerSlots ∧ Path.parent? path = some dir ∧
      c = { w with mods := w.mods.rebase dir } := by
  constructor
  · intro loaded
    obtain ⟨w, written⟩ := written_of_load loaded
    obtain ⟨dir, l, parent, -⟩ := Files.enters_parent written.there
    rw [load_of_written written parent] at loaded
    split at loaded
    · cases loaded
    · next fits => exact ⟨w, dir, written, Nat.not_lt.1 fits, parent, (Except.ok.inj loaded).symm⟩
  · rintro ⟨w, dir, written, fits, parent, rfl⟩
    rw [load_of_written written parent, if_neg (Nat.not_lt.2 fits)]

end ScriptingConfig

theorem HostProgram.configuration_mods {files : Files} {o : HostOptions} {c : ScriptingConfig}
    (loaded : ScriptingConfig.load files (o.config.getD defaultConfig) = .ok c) :
    (configuration files o).1.mods = c.mods := by
  obtain ⟨w, dir, written, -⟩ := ScriptingConfig.load_eq_ok.1 loaded
  obtain ⟨file, there⟩ := Option.isSome_iff_exists.1 written.there
  have found : files.exists_ (o.config.getD defaultConfig) = true := by
    rw [Files.exists_, Files.file?_eq_some.1 there]
  have taken : ScriptingConfig.loadOrDefault files (o.config.getD defaultConfig) = (c, []) := by
    rw [ScriptingConfig.loadOrDefault, loaded]
  rw [configuration, if_pos found, taken]
  dsimp only
  split <;> rfl

namespace Fixture

variable {files : Files} {path : Path} {f : Fixture}

theorem file?_of_load (loaded : Fixture.load files path = .ok f) :
    (files.file? path).isSome = true := by
  unfold Fixture.load at loaded
  split at loaded
  · cases loaded
  · cases loaded
  · next bytes modified found => exact Option.isSome_of_eq_some (Files.file?_eq_some.2 found)

theorem baseDir_of_load (loaded : Fixture.load files path = .ok f) :
    Path.parent? path = some f.baseDir ∧ ∃ l, files.Enters f.baseDir l := by
  obtain ⟨dir, l, parent, enters⟩ := Files.enters_parent (file?_of_load loaded)
  have base : f.baseDir = dir := by
    unfold Fixture.load at loaded
    split at loaded
    · cases loaded
    · cases loaded
    · split at loaded
      · cases loaded
      · cases loaded
        simp [ofJson, parent]
  rw [base]
  exact ⟨parent, l, enters⟩

theorem activeMods_config (f : Fixture) :
    f.config.activeMods = f.mods.map (·.below f.baseDir) := by
  unfold config ScriptingConfig.activeMods
  cases f.role <;> rfl

/-- How a fixture in the directory `base` takes its entries, beside a configuration in the directory
`dir` whose tables are written as `written` and loaded as `moved`. -/
structure Beside (files : Files) (dir base : Path) (written moved : ModTables) (f : Fixture) :
    Prop where
  resolves : ∀ p, f.resolve p = Path.join base p
  active : f.config.activeMods = f.mods.map (·.below base)
  scripts : f.scripts = f.mods.map fun e => (e.path, (e.below base).path)
  path : Path.same base dir = true →
    files.SameDir base dir ∧ ∀ e : ModEntry, Path.same (e.below base).path (e.below dir).path = true
  text : base = dir → ∀ role, f.mods = written.select role →
    f.config.activeMods = moved.select role
  list : files.SameDir base dir → ∀ role, f.mods = written.select role →
    List.Forall₂ (ModEntry.Agree files) f.config.activeMods (moved.select role)

theorem beside_of_load {dir : Path} {place : Place} (enters : files.Enters dir place)
    (written : ModTables) (loaded : Fixture.load files path = .ok f) :
    ∃ base, Path.parent? path = some base ∧
      Beside files dir base written (written.rebase dir) f := by
  obtain ⟨parent, place', enters'⟩ := baseDir_of_load loaded
  refine ⟨f.baseDir, parent,
    fun _ => rfl, activeMods_config f, rfl, fun equal => ⟨?place, ?path⟩, ?text, ?list⟩
  case place =>
    have there : some place' = some place := by
      rw [← enters'.leads, Files.end?_of_same equal, enters.leads]
    exact ⟨place, Option.some.inj there ▸ enters', enters⟩
  case path => exact fun e => Path.same_join equal e.path
  case text =>
    intro same role equal
    rw [activeMods_config, ModTables.select_rebase, equal, same]
  case list =>
    intro same role equal
    rw [activeMods_config, ModTables.select_rebase, equal, List.forall₂_map_left_iff,
      List.forall₂_map_right_iff, List.forall₂_same]
    exact fun e _ => same.agree e

end Fixture

namespace ScriptingConfig

variable {files : Files} {path : Path} {c : ScriptingConfig}

/-- What a configuration that is written as `w` in a file, in the directory `dir`, is loaded as. -/
structure Resolved (files : Files) (path dir : Path) (w c : ScriptingConfig) : Prop where
  written : Written files path w
  parent : Path.parent? path = some dir
  fits : c.maxPlayers ≤ 256
  «local» : c.mods.local = w.mods.local.map (·.below dir)
  remote : c.mods.remote = w.mods.remote.map (·.below dir)
  absolute : ∀ e : ModEntry, Path.isAbsolute e.path = true → e.below dir = e
  others : c = { w with mods := c.mods }
  program : ∀ o : HostOptions, o.config.getD HostProgram.defaultConfig = path →
    (HostProgram.configuration files o).1.mods = c.mods
  harness : ∀ fixturePath f, Fixture.load files fixturePath = .ok f →
    ∃ base, Path.parent? fixturePath = some base ∧
      Fixture.Beside files dir base w.mods c.mods f

/-- The entries of a configuration that is loaded have their paths from the directory of its file,
as those of every fixture have theirs from its own. -/
theorem entries_resolved (loaded : load files path = .ok c) :
    ∃ w dir, Resolved files path dir w c := by
  obtain ⟨w, dir, written, fits, parent, rfl⟩ := load_eq_ok.1 loaded
  obtain ⟨dir', l, parent', enters⟩ := Files.enters_parent written.there
  rw [parent] at parent'
  cases parent'
  have moved := ModTables.rebase_eq w.mods dir
  exact ⟨w, dir,
    { written := written
      parent := parent
      fits := fits
      «local» := by rw [moved]
      remote := by rw [moved]
      absolute := fun e absolute => ModEntry.below_absolute absolute dir
      others := rfl
      program := fun o given => HostProgram.configuration_mods (given ▸ loaded)
      harness := fun _ _ fixture => Fixture.beside_of_load enters w.mods fixture }⟩

/-- A configuration and a fixture with the same list, in a directory beside one of its scripts. -/
def nearby : Files :=
  let entries := "[\x7b\"path\": \"../s.rhai\"\x7d, "
    ++ "\x7b\"path\": \"/t.rhai\", \"enabled\": false\x7d]"
  let config := "\x7b\"max_players\": 4, \"mods\": \x7b\"local\": " ++ entries ++ "\x7d\x7d"
  let fixture := "\x7b\"mods\": " ++ entries ++ "\x7d"
  { nodes := [(["a"], .dir 0), (["a", "b"], .dir 0), (["a", "b", "c.json"], .file config.toUTF8 0),
      (["a", "b", "f.json"], .file fixture.toUTF8 0),
      (["a", "s.rhai"], .file "let x = 1;".toUTF8 0)]
    rootChanges := 0
    working := ["a"] }

def nearbyEntries : List ModEntry := [⟨"../s.rhai", true⟩, ⟨"/t.rhai", false⟩]

theorem nearby_facts :
    (nearby.readBytes "/a/b/c.json").toOption.bind (fun bytes =>
      (shape.readText false bytes.toList).toOption.map fun j => (ofJson j).mods) =
        some ⟨nearbyEntries, []⟩ ∧
    (load nearby "/a/b/c.json").toOption.map (·.mods) =
      some ⟨[⟨"/a/b/../s.rhai", true⟩, ⟨"/t.rhai", false⟩], []⟩ ∧
    (Fixture.load nearby "b/f.json").toOption.map (fun f => (f.mods, f.config.activeMods)) =
      some (nearbyEntries, [⟨"b/../s.rhai", true⟩, ⟨"/t.rhai", false⟩]) ∧
    Path.parent? "/a/b/c.json" = some "/a/b" ∧ Path.parent? "b/f.json" = some "b" ∧
    (nearby.file? "b/../s.rhai").isSome = true := by
  decide +kernel

theorem nearby_sameDir : nearby.SameDir "b" "/a/b" :=
  ⟨["a", "b"], ⟨by decide, by decide +kernel⟩, ⟨by decide, by decide +kernel⟩⟩

theorem nearby_agree : ∃ c f, load nearby "/a/b/c.json" = .ok c ∧
    Fixture.load nearby "b/f.json" = .ok f ∧ c.maxPlayers ≤ 256 ∧
    c.mods = ⟨[⟨"/a/b/../s.rhai", true⟩, ⟨"/t.rhai", false⟩], []⟩ ∧
    f.config.activeMods = [⟨"b/../s.rhai", true⟩, ⟨"/t.rhai", false⟩] ∧
    List.Forall₂ (ModEntry.Agree nearby) f.config.activeMods c.mods.local ∧
    (nearby.file? "b/../s.rhai").isSome = true := by
  obtain ⟨wrote, mods, lists, parent, parent', there⟩ := nearby_facts
  generalize configured : load nearby "/a/b/c.json" = loaded at mods ⊢
  generalize given : Fixture.load nearby "b/f.json" = fixture at lists ⊢
  obtain _ | c := loaded
  · cases mods
  obtain _ | f := fixture
  · cases lists
  obtain ⟨w, dir, resolved⟩ := entries_resolved configured
  obtain ⟨bytes, j, read, parsed, rfl⟩ := resolved.written
  obtain ⟨base, isBase, beside⟩ := resolved.harness "b/f.json" f given
  cases parent.symm.trans resolved.parent
  cases parent'.symm.trans isBase
  have same : (ofJson j).mods = ⟨nearbyEntries, []⟩ := by
    rw [read] at wrote
    simpa [Except.toOption, parsed] using wrote
  obtain ⟨written, active⟩ := Prod.mk.inj (Option.some.inj lists)
  refine ⟨c, f, rfl, rfl, resolved.fits, Option.some.inj mods, active, ?_, there⟩
  exact beside.list nearby_sameDir .server (by rw [written, same]; rfl)

end ScriptingConfig

end ModHost
