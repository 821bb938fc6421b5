import Mathlib.Data.List.TakeWhile
import ModHost.Proofs.EntryPaths
import ModHost.Proofs.HarnessVerdicts

set_option autoImplicit false

/-!
# Names of golden files

A golden file lies beside its fixture. Its name is that of the fixture with the extension replaced
by one of two parts, so it is not the fixture, and two fixtures whose extension is that of JSON have
two golden files. Blessing fixtures thus leaves alone the one that is run, and the golden files of
all others.
-/

namespace ModHost

namespace Path

def extensionOf? (name : String) : Option String :=
  match name.toList.reverse.dropWhile (· ≠ '.') with
  | [] | [_] => none
  | _ :: _ => some (String.ofList (name.toList.reverse.takeWhile (· ≠ '.')).reverse)

def extension? (p : Path) : Option String := (fileName? p).bind extensionOf?

/-- A name without an extension is its stem; any other is its stem, a point and its extension, in
which there is no point. -/
theorem stemOf_cases (name : String) :
    extensionOf? name = none ∧ stemOf name = name ∨
      ∃ ext, extensionOf? name = some ext ∧ '.' ∉ ext.toList ∧
        name = stemOf name ++ "." ++ ext := by
  have whole := List.takeWhile_append_dropWhile (p := (· ≠ '.')) (l := name.toList.reverse)
  have pointless : '.' ∉ name.toList.reverse.takeWhile (· ≠ '.') := fun mem => by
    simpa using List.mem_takeWhile_imp mem
  have head := List.head?_dropWhile_not (· ≠ '.') name.toList.reverse
  unfold extensionOf? stemOf
  generalize name.toList.reverse.takeWhile (· ≠ '.') = ext at whole pointless ⊢
  generalize name.toList.reverse.dropWhile (· ≠ '.') = rest at whole head ⊢
  match rest with
  | [] => exact .inl ⟨rfl, rfl⟩
  | [_] => exact .inl ⟨rfl, rfl⟩
  | point :: last :: before =>
    have isPoint : point = '.' := by simpa using head
    refine .inr ⟨_, rfl, by simpa using pointless, ?_⟩
    rw [← String.toList_inj, ← List.reverse_inj, ← whole, isPoint]
    simp

end Path

namespace Fixture

open ModHost.Path (IsStep components fileName? parent? same)

def goldenName (name : String) : String := Path.stemOf name ++ ".golden.json"

theorem length_goldenName (name : String) :
    (goldenName name).length = (Path.stemOf name).length + 12 := by
  rw [goldenName, String.length_append]
  rfl

theorem goldenName_ne_short (name : String) {other : String} (short : other.length < 12) :
    goldenName name ≠ other := by
  rintro rfl
  rw [length_goldenName] at short
  omega

theorem isStep_goldenName {name : String} (single : '/' ∉ name.toList) :
    IsStep (goldenName name) ∧ goldenName name ≠ ".." := by
  have stem : '/' ∉ (Path.stemOf name).toList := by
    obtain ⟨-, stem⟩ | ⟨ext, -, -, split⟩ := Path.stemOf_cases name
    · rwa [stem]
    · intro mem
      rw [split] at single
      exact single (by simp [mem])
  refine ⟨⟨?_, goldenName_ne_short name (by decide), goldenName_ne_short name (by decide)⟩,
    goldenName_ne_short name (by decide)⟩
  rw [goldenName, String.toList_append, List.mem_append, not_or]
  exact ⟨stem, by decide⟩

theorem goldenName_ne (name : String) : goldenName name ≠ name := by
  intro same
  obtain ⟨-, stem⟩ | ⟨ext, -, pointless, split⟩ := Path.stemOf_cases name
  · have length := length_goldenName name
    rw [same, stem] at length
    omega
  · have whole := same.trans split
    rw [goldenName, String.append_assoc, String.append_right_inj, ← String.toList_inj,
      String.toList_append] at whole
    have ends : "golden.json".toList = ext.toList := by simpa using whole
    rw [← ends] at pointless
    exact pointless (by decide)

def IsJson (p : Path) : Prop := Path.extension? p = some "json"

instance : DecidablePred IsJson := fun p =>
  inferInstanceAs (Decidable (Path.extension? p = some "json"))

variable {p q : Path}

theorem IsJson.named (json : IsJson p) :
    ∃ stem, fileName? p = some (stem ++ ".json") ∧
      goldenName (stem ++ ".json") = stem ++ ".golden.json" := by
  obtain ⟨name, named, extension⟩ := Option.bind_eq_some_iff.1 json
  obtain ⟨none, -⟩ | ⟨ext, some, -, split⟩ := Path.stemOf_cases name
  · rw [none] at extension
    cases extension
  · rw [some] at extension
    cases extension
    have name_eq : Path.stemOf name ++ ".json" = name := by
      rw [String.append_assoc] at split
      exact split.symm
    exact ⟨Path.stemOf name, by rw [named, name_eq], by rw [name_eq, goldenName]⟩

theorem goldenPath_eq (p : Path) :
    goldenPath p = p.withFileName (goldenName ((fileName? p).getD "")) := by
  rw [goldenPath, Path.stem?]
  cases fileName? p <;> rfl

theorem golden_named {name : String} (named : fileName? p = some name) :
    ∃ d, parent? p = some d ∧ parent? (goldenPath p) = some d ∧
      components p = components d ++ [name] ∧
      components (goldenPath p) = components d ++ [goldenName name] := by
  obtain ⟨d, parent, ends, trimmed, replaced⟩ := Path.withFileName_named named
  have step := (isStep_goldenName (Path.isStep_of_fileName? named).1.single).1
  have golden : goldenPath p = d.join (goldenName name) := by
    rw [goldenPath_eq, named, replaced, Option.getD_some]
  exact ⟨d, parent, golden ▸ Path.parent?_join trimmed step, ends,
    golden ▸ Path.components_join_step d step⟩

theorem golden_unnamed (unnamed : fileName? p = none) :
    components (goldenPath p) = components p ++ [goldenName ""] := by
  have step := (isStep_goldenName (by simp : '/' ∉ "".toList)).1
  rw [goldenPath_eq, Path.withFileName_unnamed unnamed, unnamed]
  exact Path.components_join_step p step

theorem golden_apart (p : Path) : same (goldenPath p) p = false := by
  rw [Bool.eq_false_iff, Ne, Path.same_iff]
  intro equal
  cases named : fileName? p with
  | none =>
    have length := congrArg List.length equal
    rw [golden_unnamed named] at length
    simp at length
  | some name =>
    obtain ⟨d, -, -, ends, golden⟩ := golden_named named
    rw [golden, ends, List.append_right_inj, List.singleton_inj] at equal
    exact goldenName_ne name equal

theorem same_golden (json : IsJson p) (json' : IsJson q) :
    same (goldenPath p) (goldenPath q) = same p q := by
  obtain ⟨stem, named, golden⟩ := json.named
  obtain ⟨stem', named', golden'⟩ := json'.named
  obtain ⟨d, -, -, ends, goldenEnds⟩ := golden_named named
  obtain ⟨d', -, -, ends', goldenEnds'⟩ := golden_named named'
  rw [Bool.eq_iff_iff, Path.same_iff, Path.same_iff, goldenEnds, goldenEnds', ends, ends', golden,
    golden']
  rw [List.append_singleton_inj, List.append_singleton_inj, String.append_left_inj,
    String.append_left_inj]

section Places

variable {files : Files} {ns ns' gs : Place}

theorem golden_leads_beside {name : String} (named : fileName? p = some name)
    (fixture : files.locate p = .ok (ns, false))
    (golden : files.locate (goldenPath p) = .ok (gs, false)) :
    ∃ before, ns = before ++ [name] ∧ gs = before ++ [goldenName name] := by
  obtain ⟨d, -, -, ends, goldenEnds⟩ := golden_named named
  obtain ⟨step, notUp⟩ := Path.isStep_of_fileName? named
  obtain ⟨goldenStep, goldenNotUp⟩ := isStep_goldenName step.single
  obtain ⟨before, way, rfl⟩ := Files.located_named step notUp ends fixture
  obtain ⟨_, way', rfl⟩ := Files.located_named goldenStep goldenNotUp goldenEnds golden
  rw [way] at way'
  cases way'
  exact ⟨before, rfl, rfl⟩

theorem golden_leads_apart (fixture : files.locate p = .ok (ns, false)) :
    files.locate (goldenPath p) ≠ .ok (ns, false) := by
  intro golden
  cases named : fileName? p with
  | none =>
    have step := isStep_goldenName (by simp : '/' ∉ "".toList)
    obtain ⟨before, way, rfl⟩ :=
      Files.located_named step.1 step.2 (golden_unnamed named) golden
    obtain ⟨-, -, -, whole⟩ := Files.locate_eq_ok.1 fixture
    rw [whole] at way
    simpa using Option.some.inj way
  | some name =>
    obtain ⟨before, rfl, same⟩ := golden_leads_beside named fixture golden
    exact goldenName_ne name (List.append_singleton_inj.1 same).2.symm

theorem golden_leads_back (json : IsJson p) (json' : IsJson q)
    (fixture : files.locate p = .ok (ns, false))
    (fixture' : files.locate q = .ok (ns', false))
    (golden : files.locate (goldenPath p) = .ok (gs, false))
    (golden' : files.locate (goldenPath q) = .ok (gs, false)) : ns = ns' := by
  obtain ⟨stem, named, suffixed⟩ := json.named
  obtain ⟨stem', named', suffixed'⟩ := json'.named
  obtain ⟨before, rfl, rfl⟩ := golden_leads_beside named fixture golden
  obtain ⟨before', rfl, same⟩ := golden_leads_beside named' fixture' golden'
  rw [suffixed, suffixed', List.append_singleton_inj, String.append_left_inj] at same
  rw [same.1, same.2]

end Places

end Fixture

namespace HarnessProgram

open Fixture (goldenPath IsJson)

variable {engine : Engine} {options : HarnessOptions} {t : Turn} {p : Path}

theorem Turn.Sound.writes (sound : t.Sound engine options) :
    t.left.files = t.met.files ∨ (t.met.files.file? t.path).isSome = true ∧
      ∃ content, t.met.files.write (goldenPath t.path) content writeTime = .ok t.left.files := by
  obtain same | ⟨-, -, output, recorded, ⟨fixture, started, left, loaded, -⟩, wrote⟩ :=
    sound.written
  · exact .inl same
  · exact .inr ⟨Fixture.file?_of_load loaded, _, wrote⟩

theorem Turn.Sound.keeps_fixture (sound : t.Sound engine options) :
    t.left.files.file? t.path = t.met.files.file? t.path := by
  obtain same | ⟨there, content, wrote⟩ := sound.writes
  · rw [same]
  · refine Files.file?_write wrote fun ns golden fixture => ?_
    exact Fixture.golden_leads_apart fixture golden

theorem Turn.Sound.locate (sound : t.Sound engine options) (p : Path) :
    (t.left.files.locate p).toOption = (t.met.files.locate p).toOption := by
  obtain same | ⟨-, content, wrote⟩ := sound.writes
  · rw [same]
  · exact Files.locate_write wrote p

theorem Turn.Sound.still_there (sound : t.Sound engine options)
    (there : (t.met.files.file? p).isSome = true) : (t.left.files.file? p).isSome = true := by
  obtain same | ⟨-, content, wrote⟩ := sound.writes
  · rwa [same]
  · exact Files.isSome_file?_write wrote there

theorem Turn.Sound.keeps_golden (sound : t.Sound engine options) (json : IsJson p)
    (there : (t.met.files.file? p).isSome = true) (turnJson : IsJson t.path)
    (other : t.met.files.locate t.path ≠ t.met.files.locate p) :
    t.left.files.file? (goldenPath p) = t.met.files.file? (goldenPath p) := by
  obtain same | ⟨run, content, wrote⟩ := sound.writes
  · rw [same]
  · obtain ⟨ns, place⟩ := Files.locate_of_file? there
    obtain ⟨ns', place'⟩ := Files.locate_of_file? run
    refine Files.file?_write wrote fun gs golden golden' => other ?_
    rw [place, place', Fixture.golden_leads_back json turnJson place place' golden' golden]

theorem Linked.keeps_golden {turns : List Turn} {first last : Outcome}
    (linked : Linked first turns last) (sound : ∀ t ∈ turns, t.Sound engine options)
    (json : IsJson p) (there : (first.files.file? p).isSome = true)
    (others : ∀ t ∈ turns, IsJson t.path ∧ first.files.locate t.path ≠ first.files.locate p) :
    last.files.file? (goldenPath p) = first.files.file? (goldenPath p) := by
  induction turns generalizing first with
  | nil => rw [linked]
  | cons t rest ih =>
    obtain ⟨rfl, linked⟩ := linked
    obtain ⟨here, later⟩ := List.forall_mem_cons.1 sound
    obtain ⟨⟨turnJson, other⟩, others⟩ := List.forall_mem_cons.1 others
    rw [ih linked later (here.still_there there), here.keeps_golden json there turnJson other]
    intro u mem
    obtain ⟨json', other'⟩ := others u mem
    refine ⟨json', fun same => other' (eq_of_toOption ?_ ?_)⟩
    · rw [← here.locate u.path, same, here.locate p]
    · obtain ⟨ns, place⟩ := Files.locate_of_file? there
      rw [place]
      rfl

theorem runOne_keeps_fixture (engine : Engine) (options : HarnessOptions) (path : Path)
    (o : Outcome) :
    (runOne engine options path o).2.files.file? path = o.files.file? path := by
  have kept := (runOne_course engine options path o).sound.keeps_fixture
  obtain ⟨more, left⟩ := noted_left path (runOne engine options path o)
  rw [turnOf, left] at kept
  exact kept

theorem runAll_keeps_golden (engine : Engine) (options : HarnessOptions) {paths : List Path}
    (failed : Nat) {o : Outcome} (json : IsJson p) (there : (o.files.file? p).isSome = true)
    (others : ∀ q ∈ paths, IsJson q ∧ o.files.locate q ≠ o.files.locate p) :
    (runAll engine options paths failed o).2.files.file? (goldenPath p) =
      o.files.file? (goldenPath p) := by
  obtain ⟨turns, linked, sound, outcome⟩ := runAll_turns engine options paths failed o
  have given : turns.map (·.path) <+: paths := by
    obtain ⟨⟨all, -⟩, -⟩ | ⟨⟨_, _, -, some, -⟩, -⟩ := outcome
    · exact all ▸ List.prefix_rfl
    · exact some
  exact linked.keeps_golden sound json there fun t mem =>
    others t.path (given.subset (List.mem_map_of_mem mem))

/-- What a fixture has its golden file for itself means. -/
structure OwnsGolden (p : Path) : Prop where
  apart : Path.same (goldenPath p) p = false
  beside : ∀ name, Path.fileName? p = some name →
    ∃ dir, Path.parent? p = some dir ∧ Path.parent? (goldenPath p) = some dir
  /-- Among fixtures with the extension of JSON, no other has this golden file. -/
  alone : IsJson p → ∀ q, IsJson q → Path.same (goldenPath p) (goldenPath q) = Path.same p q
  /-- Running the fixture, also to bless it, leaves it as it is. -/
  fixtureKept : ∀ engine options o,
    (runOne engine options p o).2.files.file? p = o.files.file? p
  /-- Running fixtures, also to bless them, leaves the golden file of one that is not among them
  as it is. -/
  goldenKept : IsJson p → ∀ engine options paths failed o, (o.files.file? p).isSome = true →
    (∀ q ∈ paths, IsJson q ∧ o.files.locate q ≠ o.files.locate p) →
      (runAll engine options paths failed o).2.files.file? (goldenPath p) =
        o.files.file? (goldenPath p)

/-- Every path has a golden file beside it that is not itself, and is that of no other fixture. -/
theorem golden_owned (p : Path) : OwnsGolden p where
  apart := Fixture.golden_apart p
  beside _ named :=
    have ⟨dir, parent, golden, _⟩ := Fixture.golden_named named
    ⟨dir, parent, golden⟩
  alone json _ json' := Fixture.same_golden json json'
  fixtureKept engine options o := runOne_keeps_fixture engine options p o
  goldenKept json engine options _ failed _ there others :=
    runAll_keeps_golden engine options failed json there others

/-- The probing fixture beside one with a longer name, which has been blessed. -/
def neighbours : Outcome :=
  let o := probing "let x = 1;"
  { o with files := { o.files with nodes := o.files.nodes ++
      [(["f.x.json"], .file "\x7b\"mods\": []\x7d".toUTF8 0),
        (["f.x.golden.json"], .file "kept".toUTF8 0)] } }

theorem neighbours_facts :
    ((runAll .standard ⟨["f.json"], .bless, false⟩ ["f.json"] 0 neighbours).2.files.file?
      "f.golden.json").isSome = true ∧
    (neighbours.files.file? "f.x.json").isSome = true ∧ IsJson "f.x.json" ∧ IsJson "f.json" ∧
    neighbours.files.locate "f.json" ≠ neighbours.files.locate "f.x.json" := by
  decide +kernel

theorem neighbour_kept :
    let left := (runAll .standard ⟨["f.json"], .bless, false⟩ ["f.json"] 0 neighbours).2
    (left.files.file? "f.golden.json").isSome = true ∧
      left.files.file? "f.x.golden.json" = some ("kept".toUTF8, 0) ∧
      Path.same (goldenPath "f.x.json") (goldenPath "f.json") = false := by
  obtain ⟨written, there, json, json', other⟩ := neighbours_facts
  have owned := golden_owned "f.x.json"
  have kept := owned.goldenKept json .standard ⟨["f.json"], .bless, false⟩ ["f.json"] 0 neighbours
    there (by simpa using ⟨json', other⟩)
  have golden : goldenPath "f.x.json" = "f.x.golden.json" := by decide +kernel
  have before : neighbours.files.file? "f.x.golden.json" = some ("kept".toUTF8, 0) := by
    decide +kernel
  refine ⟨written, ?_, ?_⟩
  · rw [← golden, kept, golden, before]
  · rw [owned.alone json "f.json" json']
    decide +kernel

end HarnessProgram

end ModHost
