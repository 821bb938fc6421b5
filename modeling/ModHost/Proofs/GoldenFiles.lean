import Mathlib
import ModHost.Programs
import ModHost.Proofs.FileWrites
import ModHost.Proofs.RunOutputs

set_option autoImplicit false

/-!
# Golden files

The harness writes the output of a fixture to its golden file when it is told to bless it, and
reads the file again when it checks the fixture. What it finds then is the same output exactly
if every value that a probe found is read back from its document.
-/

namespace ModHost

open JsonReader

namespace HarnessProgram

/-- A fixture with a seed was blessed, and the files that it is run over are the same since. -/
structure Blessed (engine : Engine) (path : Path) (fixture : Fixture) (o o' : Outcome) :
    Prop where
  loaded : Fixture.load o.files path = .ok fixture
  seeded : fixture.seed.isSome = true
  blessed : ∃ options passed, options.mode = .bless ∧
    runOne engine options path o = (.ok passed, o')
  sameFixture : o'.files.lookup path = o.files.lookup path
  sameScripts : ∀ e ∈ fixture.mods, e.enabled = true →
    o'.files.lookup (fixture.resolve e.path) = o.files.lookup (fixture.resolve e.path)

theorem line_end : Blanks [10] ∧ Stops [10] :=
  ⟨List.forall_mem_singleton.2 rfl, fun _ same => .inr (Option.some.inj same).symm⟩

theorem readGolden_written {files : Files} {golden : Path} {output : HarnessOutput} {time : Int}
    (fits : output.Fits)
    (written : files.lookup golden = .ok (.file (output.text ++ "\n").toUTF8 time)) :
    (readGolden files golden).toOption = output.readBack.map HarnessOutput.ofJson := by
  have line : textBytes "\n" = [10] := textBytes_literal (by decide)
  have parsed := HarnessOutput.parse_text fits line_end.1 line_end.2
  rw [← line, ← textBytes_append, textBytes] at parsed
  rw [← parsed, readGolden, written]
  dsimp only
  cases HarnessOutput.parse (output.text ++ "\n").toUTF8.toList with
  | error e => rfl
  | ok o => rfl

theorem deliver_bless {path : Path} {output : HarnessOutput} {o o' : Outcome} {delivered : Bool}
    (done : deliver .bless path output o = (.ok delivered, o')) :
    o.files.write (Fixture.goldenPath path) (output.text ++ "\n").toUTF8 writeTime =
      .ok o'.files := by
  unfold deliver at done
  dsimp only at done
  split at done
  · cases done
  · next files wrote =>
    cases done
    exact wrote

theorem deliver_check (path : Path) (output : HarnessOutput) (o : Outcome) :
    (deliver .check path output o).1.toOption =
      (readGolden o.files (Fixture.goldenPath path)).toOption.map
        fun expected => expected.same output := by
  unfold deliver
  dsimp only
  cases readGolden o.files (Fixture.goldenPath path) with
  | error e => rfl
  | ok expected =>
    cases same : expected.same output with
    | true => simp [same, Except.toOption]
    | false => simp [same, Except.toOption]

def said (path : Path) (output : HarnessOutput) (left : ScriptHost) (o : Outcome) : Outcome :=
  { o with log := o.log ++ left.log ++ [countsLog path output] }

def conclude (options : HarnessOptions) (path : Path) (output : HarnessOutput) :
    Except HarnessError Bool × Outcome → Except HarnessError Bool × Outcome
  | (.error e, o) => (.error e, o)
  | (.ok delivered, o) =>
    let total := output.failureCounts.total
    if total > 0 && !options.allowFailures then
      (.ok false, { o with log := o.log ++ [say .warn (s!"{path}: {total} script failure(s)"
        ++ " recorded; pass --allow-failures to accept them")] })
    else (.ok delivered, o)

def Accepted (options : HarnessOptions) (output : HarnessOutput) : Prop :=
  options.allowFailures = true ∨ output.failureCounts.total = 0

variable {engine : Engine} {options : HarnessOptions} {path : Path} {fixture : Fixture}
  {o o' : Outcome} {output : HarnessOutput} {left : ScriptHost}

theorem runOne_eq (loaded : Fixture.load o.files path = .ok fixture)
    (ran : fixture.run engine o.files = (.ok output, left)) (ended : left.aborted = none) :
    runOne engine options path o =
      conclude options path output
        (deliver options.mode path output (said path output left o)) := by
  unfold runOne
  rw [loaded]
  dsimp only
  rw [ran]
  dsimp only
  rw [ended]
  rfl

theorem runOne_gaveUp {result : Except RunError HarnessOutput} {message : String}
    (loaded : Fixture.load o.files path = .ok fixture)
    (ran : fixture.run engine o.files = (result, left)) (gaveUp : left.aborted = some message) :
    runOne engine options path o = (.error (.gaveUp message), o) := by
  unfold runOne
  rw [loaded]
  dsimp only
  rw [ran]
  dsimp only
  rw [gaveUp]

theorem conclude_files {done : Except HarnessError Bool × Outcome} {passed : Bool}
    (concluded : conclude options path output done = (.ok passed, o')) :
    ∃ delivered o'', done = (.ok delivered, o'') ∧ o'.files = o''.files := by
  obtain ⟨outcome, o''⟩ := done
  cases outcome with
  | error e => cases concluded
  | ok delivered =>
    refine ⟨delivered, o'', rfl, ?_⟩
    unfold conclude at concluded
    dsimp only at concluded
    split at concluded <;> cases concluded <;> rfl

theorem conclude_passes {done : Except HarnessError Bool × Outcome} :
    (conclude options path output done).1 = .ok true ↔
      done.1.toOption = some true ∧ Accepted options output := by
  obtain ⟨outcome, o''⟩ := done
  cases outcome with
  | error e => simp [conclude, Except.toOption]
  | ok delivered =>
    unfold conclude Accepted
    dsimp only
    split
    · next refused =>
      rw [Bool.and_eq_true, decide_eq_true_eq, Bool.not_eq_true'] at refused
      obtain ⟨failures, strict⟩ := refused
      simp only [Except.ok.injEq, Bool.false_eq_true, strict, false_or, false_iff, not_and]
      omega
    · next accepted =>
      have fine : options.allowFailures = true ∨ output.failureCounts.total = 0 := by
        cases lenient : options.allowFailures with
        | true => exact .inl rfl
        | false =>
          rw [lenient, Bool.not_false, Bool.and_true, decide_eq_true_eq] at accepted
          exact .inr (by omega)
      simp only [fine, and_true, Except.ok.injEq, Except.toOption, Option.some.injEq]

theorem check_passes (loaded : Fixture.load o.files path = .ok fixture)
    (ran : fixture.run engine o.files = (.ok output, left)) (ended : left.aborted = none)
    (checking : options.mode = .check) :
    (runOne engine options path o).1 = .ok true ↔
      (readGolden o.files (Fixture.goldenPath path)).toOption.any
        (fun expected => expected.same output) = true ∧ Accepted options output := by
  rw [runOne_eq loaded ran ended, conclude_passes, checking, deliver_check]
  change Option.map _ (readGolden o.files (Fixture.goldenPath path)).toOption = _ ∧ _ ↔ _
  cases (readGolden o.files (Fixture.goldenPath path)).toOption with
  | none => simp
  | some expected => simp

theorem Blessed.ended (blessed : Blessed engine path fixture o o')
    (ran : fixture.run engine o.files = (.ok output, left)) : left.aborted = none := by
  obtain ⟨options, passed, -, done⟩ := blessed.blessed
  cases gaveUp : left.aborted with
  | none => rfl
  | some message =>
    rw [runOne_gaveUp blessed.loaded ran gaveUp] at done
    cases done

theorem Blessed.written (blessed : Blessed engine path fixture o o')
    (ran : fixture.run engine o.files = (.ok output, left)) :
    o'.files.lookup (Fixture.goldenPath path) =
      .ok (.file (output.text ++ "\n").toUTF8 writeTime) := by
  obtain ⟨options, passed, blessing, done⟩ := blessed.blessed
  rw [runOne_eq blessed.loaded ran (blessed.ended ran), blessing] at done
  obtain ⟨delivered, o'', delivery, files⟩ := conclude_files done
  rw [files]
  exact Files.lookup_write (deliver_bless delivery)

theorem Blessed.reloaded (blessed : Blessed engine path fixture o o') :
    Fixture.load o'.files path = .ok fixture := by
  rw [← blessed.loaded, Fixture.load, Fixture.load, blessed.sameFixture]

theorem Blessed.check_passes (blessed : Blessed engine path fixture o o')
    (ran : fixture.run engine o.files = (.ok output, left)) (fits : output.Fits)
    (checking : options.mode = .check) :
    (runOne engine options path o').1 = .ok true ↔
      output.survives = true ∧ Accepted options output := by
  have again : fixture.run engine o'.files = (.ok output, left) :=
    (Fixture.run_congr blessed.sameScripts).trans ran
  rw [HarnessProgram.check_passes blessed.reloaded again (blessed.ended ran) checking,
    readGolden_written fits (blessed.written ran), HarnessOutput.any_same fits]

/-- The text of an output gives an equal one back just when each finding survives. -/
theorem text_read_back (fits : output.Fits) :
    (∃ back, HarnessOutput.parse (textBytes output.text) = .ok back ∧ back.same output = true) ↔
      output.survives = true := by
  have parsed := HarnessOutput.parse_text fits blanks_nil stops_nil
  rw [List.append_nil] at parsed
  rw [← HarnessOutput.any_same fits, ← parsed]
  cases HarnessOutput.parse (textBytes output.text) with
  | error e => simp [Except.toOption]
  | ok back => simp [Except.toOption]

/-- An output is read back from its text, and found without a difference in the golden file it
was blessed to, exactly if every value that a probe found survives: it is not null, its floats
are read back, and its containers are not too deep. -/
theorem golden_file_kept (ran : fixture.run engine o.files = (.ok output, left))
    (counted : output.Counted) :
    ((∃ back, HarnessOutput.parse (textBytes output.text) = .ok back ∧
      back.same output = true) ↔ output.survives = true) ∧
    ∀ {path : Path} {o' : Outcome} {check : HarnessOptions},
      Blessed engine path fixture o o' → check.mode = .check →
      ((runOne engine check path o').1 = .ok true ↔
        output.survives = true ∧ Accepted check output) := by
  have fits : output.Fits := by
    obtain ⟨players, -, -, rfl⟩ := Fixture.run_ok ran
    exact Fixture.fits_outputOf counted
  exact ⟨text_read_back fits, fun blessed checking => blessed.check_passes ran fits checking⟩

/-- A fixture whose script is this one and whose probe looks at the global `x`. -/
def probing (script : String) : Outcome :=
  let fixture := "\x7b\"mods\": [\x7b\"path\": \"a.rhai\"\x7d], \"frames\": 0, \"max_players\": 0, "
    ++ "\"inspect\": [\x7b\"script\": \"a.rhai\", \"name\": \"x\"\x7d]\x7d"
  ⟨0, "", [],
    .ofNodes [(["f.json"], .file fixture.toUTF8 0), (["a.rhai"], .file script.toUTF8 0)]⟩

def probed : Fixture :=
  { role := .server, frames := 0, maxPlayers := 0, seed := some 1, mods := [⟨"a.rhai", true⟩]
    players := [], inspect := [⟨"a.rhai", "x"⟩], baseDir := "" }

/-- What a run of the probing fixture comes to: how many failures, and whether the value
survives. -/
def Probed (script : String) (survives : Bool) : Prop :=
  let o := probing script
  let blessed := runOne .standard ⟨["f.json"], .bless, false⟩ "f.json" o
  (Fixture.load o.files "f.json").toOption = some probed ∧
    ((probed.run .standard o.files).1.toOption.map fun output =>
      (output.frames, output.results, output.finalPlayers, output.failureCounts.total,
        output.survives)) = some (0, [], [], 0, survives) ∧
    blessed.1.toOption = some true ∧
    (blessed.2.files.lookup "f.json").toOption = (o.files.lookup "f.json").toOption ∧
    (blessed.2.files.lookup "a.rhai").toOption = (o.files.lookup "a.rhai").toOption ∧
    (o.files.lookup "f.json").toOption.isSome ∧ (o.files.lookup "a.rhai").toOption.isSome

deriving instance DecidableEq for FileNode

instance (script : String) (survives : Bool) : Decidable (Probed script survives) :=
  inferInstanceAs (Decidable (_ ∧ _))

theorem eq_of_toOption {ε α : Type} {x y : Except ε α} (same : x.toOption = y.toOption)
    (sound : y.toOption.isSome = true) : x = y := by
  cases y with
  | error e => cases sound
  | ok b =>
    cases x with
    | error e => cases same
    | ok a =>
      cases same
      rfl

theorem probed_blessed {script : String} {survives : Bool} (facts : Probed script survives) :
    ∃ output left o', probed.run .standard (probing script).files = (.ok output, left) ∧
      output.Counted ∧ output.survives = survives ∧ output.failureCounts.total = 0 ∧
      Blessed .standard "f.json" probed (probing script) o' := by
  obtain ⟨loaded, told, passed, fixture, source, isFixture, isSource⟩ := facts
  generalize ran : probed.run .standard (probing script).files = result at told
  obtain ⟨_ | output, left⟩ := result
  · cases told
  · simp only [Except.toOption, Option.map_some, Option.some.injEq, Prod.mk.injEq] at told
    obtain ⟨frames, results, players, failures, survives⟩ := told
    refine ⟨output, left, _, rfl, ⟨?_, ?_, ?_⟩, survives, failures,
      ⟨eq_of_toOption loaded rfl, rfl, ⟨_, true, rfl, Prod.ext (eq_of_toOption passed rfl) rfl⟩,
        eq_of_toOption fixture isFixture, ?_⟩⟩
    · rw [frames]
      decide
    · rw [results]
      exact fun r none => absurd none List.not_mem_nil
    · rw [players]
      decide
    · intro e he _
      have resolved : probed.resolve "a.rhai" = "a.rhai" := by decide +kernel
      rw [List.mem_singleton.1 he, resolved]
      exact eq_of_toOption source isSource

theorem probed_one : Probed "let x = 1;" true := by decide +kernel

theorem probed_unit : Probed "let x = ();" false := by decide +kernel

theorem integer_kept : ∃ output left o',
    probed.run .standard (probing "let x = 1;").files = (.ok output, left) ∧ output.Counted ∧
      Blessed .standard "f.json" probed (probing "let x = 1;") o' ∧
      (∃ back, HarnessOutput.parse (textBytes output.text) = .ok back ∧
        back.same output = true) ∧
      (runOne .standard ⟨["f.json"], .check, false⟩ "f.json" o').1 = .ok true := by
  obtain ⟨output, left, o', ran, counted, survives, failures, blessed⟩ :=
    probed_blessed probed_one
  obtain ⟨text, golden⟩ := golden_file_kept ran counted
  exact ⟨output, left, o', ran, counted, blessed, text.2 survives,
    (golden blessed rfl).2 ⟨survives, .inr failures⟩⟩

/-- A global that is the unit is written as null, which is read as no value at all. -/
theorem unit_lost : ∃ output left o',
    probed.run .standard (probing "let x = ();").files = (.ok output, left) ∧
      output.failureCounts.total = 0 ∧
      Blessed .standard "f.json" probed (probing "let x = ();") o' ∧
      (¬ ∃ back, HarnessOutput.parse (textBytes output.text) = .ok back ∧
        back.same output = true) ∧
      (runOne .standard ⟨["f.json"], .check, false⟩ "f.json" o').1 ≠ .ok true := by
  obtain ⟨output, left, o', ran, counted, lost, failures, blessed⟩ := probed_blessed probed_unit
  have fits : output.Fits := by
    obtain ⟨players, -, -, rfl⟩ := Fixture.run_ok ran
    exact Fixture.fits_outputOf counted
  refine ⟨output, left, o', ran, failures, blessed, fun back => ?_, fun passes => ?_⟩
  · exact Bool.noConfusion (((text_read_back fits).1 back).symm.trans lost)
  · have survives := ((blessed.check_passes ran fits rfl).1 passes).1
    exact Bool.noConfusion (survives.symm.trans lost)

end HarnessProgram

end ModHost
