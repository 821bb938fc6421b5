import ModHost.Files
import ModHost.Proofs.PathParents

set_option autoImplicit false

/-!
# Where paths lead

A path leads where the names on it lead, one directory after the other, so it depends on where the
directories are only. Where it goes on from a directory does not depend on how that is spelled.
-/

namespace ModHost

/-- A node without the count of a directory's changes. -/
def FileNode.content? : FileNode → Option (ByteArray × Int)
  | .file content modified => some (content, modified)
  | .dir _ => none

namespace Files

open ModHost.Path (names)

variable {f f' : Files} {ns : Place} {p : Path}

def at? (f : Files) (ns : Place) : Option (Option (ByteArray × Int)) :=
  (f.node? ns).map FileNode.content?

def isDir (f : Files) (ns : Place) : Bool :=
  match f.node? ns with
  | some (.dir _) => true
  | _ => false

/-- The file at a place, with its time, if there is one. -/
def fileAt (f : Files) (names : Place) : Option (ByteArray × Int) :=
  match f.node? names with
  | some (.file content modified) => some (content, modified)
  | _ => none

theorem isDir_eq (f : Files) (ns : Place) : f.isDir ns = (f.at? ns).any Option.isNone := by
  unfold isDir at?
  cases f.node? ns with
  | none => rfl
  | some node => cases node <;> rfl

theorem fileAt_eq (f : Files) (ns : Place) : f.fileAt ns = (f.at? ns).join := by
  unfold fileAt at?
  cases f.node? ns with
  | none => rfl
  | some node => cases node <;> rfl

theorem fileAt_eq_some {content : ByteArray} {modified : Int} :
    f.fileAt ns = some (content, modified) ↔ f.node? ns = some (.file content modified) := by
  unfold fileAt
  split
  · next found => simp [found]
  · next other =>
    simp only [reduceCtorEq, false_iff]
    exact other content modified

theorem step_eq (f : Files) (ns : Place) (name : String) :
    (f.step ns name).toOption =
      if f.isDir ns then
        if name = ".." then some ns.dropLast
        else if name.utf8ByteSize > 255 then none else some (ns ++ [name])
      else none := by
  unfold step isDir
  split
  · next missing => simp [missing, Except.toOption]
  · next file => simp [file, Except.toOption]
  · next dir =>
    rw [dir]
    dsimp only
    split
    · simp [Except.toOption]
    · split <;> simp [Except.toOption]

theorem step_congr (dirs : ∀ ns, f'.isDir ns = f.isDir ns) (ns : Place) (name : String) :
    (f'.step ns name).toOption = (f.step ns name).toOption := by
  rw [step_eq, step_eq, dirs]

theorem walk_cons (f : Files) (ns : Place) (name : String) (rest : List String) :
    (f.walk ns (name :: rest)).toOption =
      (f.step ns name).toOption.bind fun next => (f.walk next rest).toOption := by
  rw [walk]
  cases f.step ns name <;> rfl

theorem walk_append (f : Files) (ns : Place) (way rest : List String) :
    (f.walk ns (way ++ rest)).toOption =
      (f.walk ns way).toOption.bind fun next => (f.walk next rest).toOption := by
  induction way generalizing ns with
  | nil => rfl
  | cons name way ih => simp only [List.cons_append, walk_cons, ih, Option.bind_assoc]

theorem walk_congr (dirs : ∀ ns, f'.isDir ns = f.isDir ns) (ns : Place) (way : List String) :
    (f'.walk ns way).toOption = (f.walk ns way).toOption := by
  induction way generalizing ns with
  | nil => rfl
  | cons name rest ih => simp only [walk_cons, step_congr dirs, ih]

/-- Where the names on a path lead. -/
def end? (f : Files) (p : Path) : Option Place := (f.walk (f.start p) (names p)).toOption

theorem start_congr {d : Path} (same : Path.isAbsolute p = Path.isAbsolute d) :
    f.start p = f.start d := by
  rw [start, start, same]

theorem start_of_append {d : Path} {name : String} (notRoot : name ≠ "/")
    (ends : Path.components p = Path.components d ++ [name]) : f.start p = f.start d := by
  refine start_congr ?_
  rw [Bool.eq_iff_iff, Path.isAbsolute_iff_mem, Path.isAbsolute_iff_mem, ends, List.mem_append,
    List.mem_singleton, or_iff_left (Ne.symm notRoot)]

theorem end?_of_same {d : Path} (equal : Path.same p d = true) : f.end? p = f.end? d := by
  have absolute : Path.isAbsolute p = Path.isAbsolute d := by
    rw [Bool.eq_iff_iff, Path.isAbsolute_iff_mem, Path.isAbsolute_iff_mem, Path.same_iff.1 equal]
  rw [end?, end?, start_congr absolute, Path.names_of_same equal]

theorem locate_eq (f : Files) (p : Path) : f.locate p =
    if p.toList.contains '\x00' then .error .nulInPath
    else if p = "" then .error .notFound
    else if p.utf8ByteSize > 4095 then .error .nameTooLong
    else (f.walk (f.start p) (names p)).map fun place => (place, Path.wantsDir p) :=
  rfl

theorem locate_congr (dirs : ∀ ns, f'.isDir ns = f.isDir ns) (working : f'.working = f.working)
    (p : Path) : (f'.locate p).toOption = (f.locate p).toOption := by
  have way (f : Files) :
      ((f.walk (f.start p) (names p)).map fun place => (place, Path.wantsDir p)).toOption =
        (f.end? p).map fun place => (place, Path.wantsDir p) := by
    unfold end?
    cases f.walk (f.start p) (names p) <;> rfl
  have leads : f'.end? p = f.end? p := by
    rw [end?, end?, start, start, working, walk_congr dirs]
  simp only [locate_eq, apply_ite Except.toOption, way, leads]

/-- A path leads to a place for a file when it can be asked for at all and the names on it lead
there. -/
theorem locate_eq_ok : f.locate p = .ok (ns, false) ↔
    '\x00' ∉ p.toList ∧ p.utf8ByteSize ≤ 4095 ∧ Path.wantsDir p = false ∧
      f.end? p = some ns := by
  rw [locate_eq, end?]
  by_cases nul : '\x00' ∈ p.toList
  · simp [nul]
  · by_cases empty : p = ""
    · simp [empty, Path.wantsDir_empty]
    · by_cases long : p.utf8ByteSize > 4095
      · simp [nul, empty, long, Nat.not_le.2 long]
      · cases f.walk (f.start p) (names p) <;>
          simp [nul, empty, long, Nat.not_lt.1 long, Except.map, Except.toOption, and_comm]

theorem located_named {d : Path} {name : String} (step : Path.IsStep name)
    (notUp : name ≠ "..") (ends : Path.components p = Path.components d ++ [name])
    (located : f.locate p = .ok (ns, false)) :
    ∃ before, f.end? d = some before ∧ ns = before ++ [name] := by
  obtain ⟨-, -, -, walked⟩ := locate_eq_ok.1 located
  rw [end?, start_of_append step.notRoot ends, Path.names_of_components step ends,
    walk_append] at walked
  obtain ⟨before, way, last⟩ := Option.bind_eq_some_iff.1 walked
  rw [walk_cons] at last
  obtain ⟨next, stepped, done⟩ := Option.bind_eq_some_iff.1 last
  cases done
  rw [step_eq, if_neg notUp] at stepped
  refine ⟨before, way, ?_⟩
  split at stepped
  · split at stepped
    · cases stepped
    · cases stepped
      rfl
  · cases stepped

theorem lookup_located {content : ByteArray} {modified : Int}
    (located : f.locate p = .ok (ns, false))
    (found : f.node? ns = some (.file content modified)) :
    f.lookup p = .ok (.file content modified) := by
  unfold lookup
  rw [located]
  dsimp only [bind, Except.bind]
  rw [found]
  rfl

def file? (f : Files) (p : Path) : Option (ByteArray × Int) :=
  match f.lookup p with
  | .ok (.file content modified) => some (content, modified)
  | _ => none

theorem file?_eq_some {content : ByteArray} {modified : Int} :
    f.file? p = some (content, modified) ↔ f.lookup p = .ok (.file content modified) := by
  unfold file?
  split
  · next found => simp [found]
  · next other =>
    simp only [reduceCtorEq, false_iff]
    exact other content modified

theorem lookup_eq_file {content : ByteArray} {modified : Int} :
    f.lookup p = .ok (.file content modified) ↔
      ∃ ns, f.locate p = .ok (ns, false) ∧ f.fileAt ns = some (content, modified) := by
  constructor
  · intro found
    unfold lookup at found
    cases located : f.locate p with
    | error e =>
      rw [located] at found
      cases found
    | ok place =>
      obtain ⟨ns, wantsDir⟩ := place
      rw [located] at found
      dsimp only [bind, Except.bind] at found
      split at found
      · cases found
      · cases found
      · next n node wants =>
        cases found
        refine ⟨ns, ?_, fileAt_eq_some.2 node⟩
        rw [Bool.eq_false_iff.2 fun yes => wants _ _ yes rfl]
  · rintro ⟨ns, located, found⟩
    exact lookup_located located (fileAt_eq_some.1 found)

theorem file?_located {file : ByteArray × Int} :
    f.file? p = some file ↔ ∃ ns, f.locate p = .ok (ns, false) ∧ f.fileAt ns = some file :=
  file?_eq_some.trans lookup_eq_file

theorem locate_of_file? (there : (f.file? p).isSome = true) :
    ∃ ns, f.locate p = .ok (ns, false) := by
  obtain ⟨file, found⟩ := Option.isSome_iff_exists.1 there
  obtain ⟨ns, located, -⟩ := file?_located.1 found
  exact ⟨ns, located⟩

/-- The root is no file, so a path to a file has a last name. -/
theorem last_of_file? (there : (f.file? p).isSome = true) :
    ∃ c, (Path.components p).getLast? = some c ∧ c ≠ "/" := by
  obtain ⟨file, found⟩ := Option.isSome_iff_exists.1 there
  obtain ⟨ns, located, isFile⟩ := file?_located.1 found
  obtain ⟨-, -, wants, leads⟩ := locate_eq_ok.1 located
  cases last : (Path.components p).getLast? with
  | none =>
    have empty := Path.components_eq_nil.1 (List.getLast?_eq_none_iff.1 last)
    rw [empty] at wants
    exact absurd wants (by simp [Path.wantsDir_empty])
  | some c =>
    refine ⟨c, rfl, fun root => ?_⟩
    subst root
    have absolute : Path.isAbsolute p = true :=
      Path.isAbsolute_iff_mem.2 (List.mem_of_getLast? last)
    have unnamed : names p = [] := by
      by_contra named
      rw [Path.components_eq, List.getLast?_append_of_ne_nil _ named] at last
      exact (Path.isStep_of_mem_names (List.mem_of_getLast? last)).notRoot rfl
    rw [end?, start, if_pos absolute, unnamed] at leads
    cases leads
    cases isFile

/-- That paths can go on from a directory, and where they are then. -/
structure Enters (f : Files) (d : Path) (place : Place) : Prop where
  text : '\x00' ∉ d.toList
  leads : f.end? d = some place

theorem enters_parent (there : (f.file? p).isSome = true) :
    ∃ d place, Path.parent? p = some d ∧ f.Enters d place := by
  obtain ⟨ns, located⟩ := locate_of_file? there
  obtain ⟨nul, -, -, leads⟩ := locate_eq_ok.1 located
  obtain ⟨c, last, notRoot⟩ := last_of_file? there
  obtain ⟨d, parent, ends, -⟩ := Path.parent?_eq last notRoot
  have split := Path.names_of_append ends
  rw [end?, start_of_append notRoot ends, split, walk_append] at leads
  obtain ⟨place, way, -⟩ := Option.bind_eq_some_iff.1 leads
  refine ⟨d, place, parent, ?_, way⟩
  rw [Path.mem_toList (by decide) (by decide)] at nul ⊢
  rintro ⟨name, mem, inside⟩
  exact nul ⟨name, split ▸ List.mem_append_left _ mem, inside⟩

/-- What a path that goes on from a directory leads to depends on where the directory is only. -/
theorem Enters.locate_join {d : Path} {place : Place} (enters : f.Enters d place)
    (relative : Path.isAbsolute p = false) (short : (Path.join d p).utf8ByteSize ≤ 4095) :
    f.locate (Path.join d p) = .ok (ns, false) ↔
      '\x00' ∉ p.toList ∧ Path.wantsDir p = false ∧
        (f.walk place (names p)).toOption = some ns := by
  have way : f.end? (Path.join d p) = (f.walk place (names p)).toOption := by
    have leads := enters.leads
    unfold end? at leads ⊢
    rw [start_congr (Path.isAbsolute_join relative d), Path.names_join relative, walk_append,
      leads, Option.bind_some]
  rw [locate_eq_ok, way, Path.wantsDir_join, Path.mem_join relative (by decide),
    or_iff_right enters.text]
  simp only [short, true_and]

theorem Enters.file?_join {d d' : Path} {place : Place} (enters : f.Enters d place)
    (enters' : f.Enters d' place) (short : (Path.join d p).utf8ByteSize ≤ 4095)
    (short' : (Path.join d' p).utf8ByteSize ≤ 4095) :
    f.file? (Path.join d p) = f.file? (Path.join d' p) := by
  cases absolute : Path.isAbsolute p with
  | true => rw [Path.join_absolute d absolute, Path.join_absolute d' absolute]
  | false =>
    refine Option.ext fun file => ?_
    rw [file?_located, file?_located]
    refine exists_congr fun ns => and_congr_left fun _ => ?_
    rw [enters.locate_join absolute short, enters'.locate_join absolute short']

end Files

end ModHost
