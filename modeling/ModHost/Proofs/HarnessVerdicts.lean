import ModHost.Proofs.FailureQueue
import ModHost.Proofs.GoldenFiles

set_option autoImplicit false

/-!
# Verdicts of the harness

The harness gives every fixture a turn, in the order of its arguments. A turn meets what the turns
before have left, and whether its fixture passes is a matter of the files it meets. The exit code
sums the turns up: it is zero when all fixtures passed, and one when some did not, unless the host's
own code gave up during a turn, which ends the program there.
-/

namespace ModHost

namespace Fixture

variable {engine : Engine} {files : Files} {f : Fixture} {started : InitReport × ScriptHost}
  {output : HarnessOutput} {left : ScriptHost}

def StartsAs (engine : Engine) (files : Files) (f : Fixture)
    (started : InitReport × ScriptHost) : Prop :=
  ∃ players, preparePlayers (ScriptHost.ofConfig f.config).players f.players = .ok players ∧
    started = (f.hosted players).start engine files ∧ started.1.setupError = none

theorem StartsAs.unique {other : InitReport × ScriptHost} (starts : f.StartsAs engine files started)
    (again : f.StartsAs engine files other) : other = started := by
  obtain ⟨players, prepared, rfl, -⟩ := starts
  obtain ⟨players', prepared', rfl, -⟩ := again
  rw [prepared] at prepared'
  cases prepared'
  rfl

theorem run_of_startsAs (starts : f.StartsAs engine files started) :
    f.run engine files =
      if frameRoom < f.frames then
        (.error (.gaveUp "capacity overflow"), { beforeFrames started with
          aborted := (beforeFrames started).aborted <|> some "capacity overflow" })
      else (.ok (f.outputOf engine started),
        (stepFrames engine f.scripts f.frames 0 (beforeFrames started)).2.shutdown) := by
  obtain ⟨players, prepared, rfl, sound⟩ := starts
  unfold hosted at sound ⊢
  unfold run
  dsimp only
  rw [prepared]
  dsimp only
  rw [sound]
  rfl

theorem run_of_not_startsAs (idle : ∀ started, ¬ f.StartsAs engine files started) :
    ∃ e, (f.run engine files).1 = .error e := by
  unfold run
  dsimp only
  split
  · next e _ => exact ⟨e, rfl⟩
  · next players prepared =>
    split
    · exact ⟨_, rfl⟩
    · next sound => exact absurd ⟨players, prepared, rfl, sound⟩ (idle _)

theorem run_ended (starts : f.StartsAs engine files started)
    (ended : (f.run engine files).2.aborted = none) :
    f.run engine files = (.ok (f.outputOf engine started), (f.run engine files).2) := by
  have run := run_of_startsAs starts
  split at run
  · rw [run] at ended
    cases before : (beforeFrames started).aborted <;> simp [before] at ended
  · rw [run]

theorem stepFrames_failures (engine : Engine) (scripts : List (String × Path))
    (count frame n : Nat) (h : ScriptHost) :
    (stepFrames engine scripts count frame h).1.foldl (fun n r => n + r.failures.length) n +
        h.failures.length =
      n + (stepFrames engine scripts count frame h).2.failures.length := by
  induction count generalizing frame n h with
  | zero => rfl
  | succ count ih =>
    have ran := (ScriptHost.hookRuns_runFrame engine h).failures
    have queued := congrArg List.length ran
    rw [List.length_append] at queued
    have later := ih (frame + 1) (n + (h.runFrame engine).1.failures.length)
      (h.runFrame engine).2.takeLogs.2
    change _ + (h.runFrame engine).2.failures.length = _ at later
    rw [stepFrames_succ]
    simp only [List.foldl_cons, List.length_map]
    omega

/-- The failures that an output counts are those that the host recorded, while it started and in
the frames. -/
theorem total_eq_recorded (starts : f.StartsAs engine files started)
    (ran : f.run engine files = (.ok output, left)) :
    output.failureCounts.total = (started.2.failures ++ left.failures).length := by
  have queued : started.2.failures = started.1.failures := by
    obtain ⟨players, -, rfl, sound⟩ := starts
    have told := (ScriptHost.starts_start engine files (f.hosted players)).failures
    rw [InitReport.told, sound] at told
    exact told
  have stepped := stepFrames_failures engine f.scripts f.frames 0 0 (beforeFrames started)
  rw [run_of_startsAs starts] at ran
  split at ran
  · cases ran
  · cases ran
    have load : (f.outputOf engine started).initFailures.length = started.1.failures.length :=
      List.length_map _
    rw [Nat.zero_add] at stepped
    rw [ScriptHost.shutdown_failures, List.length_append, queued, ← stepped, ← load]
    rfl

end Fixture

namespace HarnessProgram

/-- The fixture at a path is loaded and set up, and its run has this output and records these
failures: those that wait when the host has started, and then those of the frames. -/
def Ends (engine : Engine) (files : Files) (path : Path) (output : HarnessOutput)
    (recorded : List ScriptError) : Prop :=
  ∃ fixture started left, Fixture.load files path = .ok fixture ∧
    fixture.StartsAs engine files started ∧ fixture.run engine files = (.ok output, left) ∧
    recorded = started.2.failures ++ left.failures

def GivesUp (engine : Engine) (files : Files) (path : Path) : Prop :=
  ∃ fixture message, Fixture.load files path = .ok fixture ∧
    (fixture.run engine files).2.aborted = some message

/-- The output has been put where the mode wants it, or found there. -/
def Delivered (mode : GoldenMode) (path : Path) (output : HarnessOutput) (met left : Files) :
    Prop :=
  match mode with
  | .print => True
  | .check => ∃ expected, readGolden met (Fixture.goldenPath path) = .ok expected ∧
      expected.same output = true
  | .bless => met.write (Fixture.goldenPath path) (output.text ++ "\n").toUTF8 writeTime = .ok left

/-- The turn of a fixture: what it meets and leaves, and whether the fixture passed. -/
structure Turn where
  path : Path
  met : Outcome
  left : Outcome
  passed : Bool

namespace Turn

def GivesUp (engine : Engine) (t : Turn) : Prop := HarnessProgram.GivesUp engine t.met.files t.path

def Passes (engine : Engine) (options : HarnessOptions) (t : Turn) : Prop :=
  ∃ output recorded, Ends engine t.met.files t.path output recorded ∧
    Delivered options.mode t.path output t.met.files t.left.files ∧
    (recorded = [] ∨ options.allowFailures = true)

structure Sound (engine : Engine) (options : HarnessOptions) (t : Turn) : Prop where
  passed : ¬ t.GivesUp engine → (t.passed = true ↔ t.Passes engine options)
  heard : ¬ t.GivesUp engine → ∀ fixture, Fixture.load t.met.files t.path = .ok fixture →
    ∃ more, t.left.log = t.met.log ++ (fixture.run engine t.met.files).2.log ++ more
  /-- Nothing is written but the golden file of a fixture that was run to the end. -/
  written : t.left.files = t.met.files ∨ options.mode = .bless ∧ ¬ t.GivesUp engine ∧
    ∃ output recorded, Ends engine t.met.files t.path output recorded ∧
      t.met.files.write (Fixture.goldenPath t.path) (output.text ++ "\n").toUTF8 writeTime =
        .ok t.left.files

end Turn

/-- Each turn meets what the one before has left. -/
def Linked : Outcome → List Turn → Outcome → Prop
  | first, [], last => last = first
  | first, t :: rest, last => t.met = first ∧ Linked t.left rest last

def noted (path : Path) : Except HarnessError Bool × Outcome → Outcome
  | (.ok _, o) | (.error (.gaveUp _), o) => o
  | (.error e, o) => { o with log := o.log ++ [say .error s!"{path}: {e.report.detailed}"] }

def turnOf (path : Path) (o : Outcome) (done : Except HarnessError Bool × Outcome) : Turn :=
  ⟨path, o, noted path done, done.1.toOption.getD false⟩

section Runs

variable {engine : Engine} {files : Files} {path : Path} {fixture : Fixture}
  {output : HarnessOutput} {recorded : List ScriptError}

theorem Ends.unique {output' : HarnessOutput} {recorded' : List ScriptError}
    (ends : Ends engine files path output recorded)
    (again : Ends engine files path output' recorded') :
    output' = output ∧ recorded' = recorded := by
  obtain ⟨fixture, started, left, loaded, starts, ran, rfl⟩ := ends
  obtain ⟨fixture', started', left', loaded', starts', ran', rfl⟩ := again
  rw [loaded] at loaded'
  cases loaded'
  rw [ran] at ran'
  cases ran'
  rw [starts.unique starts']
  exact ⟨rfl, rfl⟩

theorem Ends.counted (ends : Ends engine files path output recorded) :
    output.failureCounts.total = recorded.length := by
  obtain ⟨fixture, started, left, -, starts, ran, rfl⟩ := ends
  exact Fixture.total_eq_recorded starts ran

theorem Ends.accepted_iff {options : HarnessOptions}
    (ends : Ends engine files path output recorded) :
    Accepted options output ↔ recorded = [] ∨ options.allowFailures = true := by
  rw [Accepted, ends.counted, List.length_eq_zero_iff, or_comm]

theorem givesUp_iff (loaded : Fixture.load files path = .ok fixture) :
    GivesUp engine files path ↔ (fixture.run engine files).2.aborted ≠ none := by
  constructor
  · rintro ⟨fixture', message, loaded', aborted⟩
    rw [loaded] at loaded'
    cases loaded'
    rw [aborted]
    exact Option.some_ne_none message
  · intro aborted
    obtain ⟨message, aborted⟩ := Option.ne_none_iff_exists'.1 aborted
    exact ⟨fixture, message, loaded, aborted⟩

end Runs

section Turns

variable (mode : GoldenMode) (options : HarnessOptions) (path : Path) (output : HarnessOutput)

structure Delivery (o : Outcome) (done : Except HarnessError Bool × Outcome) : Prop where
  passes : done.1 = .ok true ↔ Delivered mode path output o.files done.2.files
  files : done.2.files = o.files ∨ mode = .bless ∧
    o.files.write (Fixture.goldenPath path) (output.text ++ "\n").toUTF8 writeTime =
      .ok done.2.files
  log : ∃ more, done.2.log = o.log ++ more
  goesOn : ∀ message, done.1 ≠ .error (.gaveUp message)

theorem readGolden_goes_on (files : Files) (golden : Path) (message : String) :
    readGolden files golden ≠ .error (.gaveUp message) := by
  unfold readGolden
  intro gaveUp
  split at gaveUp
  · cases gaveUp
  · cases gaveUp
  · split at gaveUp <;> cases gaveUp

theorem delivery (o : Outcome) : Delivery mode path output o (deliver mode path output o) := by
  have silent : ∃ more, o.log = o.log ++ more := ⟨[], (List.append_nil _).symm⟩
  unfold deliver
  cases mode with
  | print => exact ⟨iff_of_true rfl trivial, .inl rfl, silent, fun _ gaveUp => nomatch gaveUp⟩
  | bless =>
    dsimp only
    cases wrote : o.files.write (Fixture.goldenPath path) (output.text ++ "\n").toUTF8
      writeTime with
    | error e =>
      refine ⟨iff_of_false (fun sound => nomatch sound) fun written => ?_, .inl rfl, silent,
        fun _ gaveUp => nomatch gaveUp⟩
      exact nomatch wrote.symm.trans written
    | ok files =>
      exact ⟨iff_of_true rfl wrote, .inr ⟨rfl, wrote⟩, ⟨_, rfl⟩, fun _ gaveUp => nomatch gaveUp⟩
  | check =>
    dsimp only
    cases found : readGolden o.files (Fixture.goldenPath path) with
    | error e =>
      refine ⟨iff_of_false (fun sound => nomatch sound) ?_, .inl rfl, silent, ?_⟩
      · rintro ⟨expected, golden, -⟩
        exact nomatch found.symm.trans golden
      · intro message gaveUp
        cases gaveUp
        exact readGolden_goes_on _ _ message found
    | ok expected =>
      dsimp only
      split
      · next same =>
        exact ⟨iff_of_true rfl ⟨expected, found, same⟩, .inl rfl, silent,
          fun _ gaveUp => nomatch gaveUp⟩
      · next differs =>
        refine ⟨iff_of_false (fun sound => nomatch sound) ?_, .inl rfl, ⟨_, rfl⟩,
          fun _ gaveUp => nomatch gaveUp⟩
        rintro ⟨other, golden, same⟩
        cases found.symm.trans golden
        exact differs same

theorem conclude_left (done : Except HarnessError Bool × Outcome) :
    ∃ more, (conclude options path output done).2 = { done.2 with log := done.2.log ++ more } := by
  have silent : done.2 = { done.2 with log := done.2.log ++ [] } := by rw [List.append_nil]
  obtain ⟨_ | delivered, o⟩ := done
  · exact ⟨[], silent⟩
  · unfold conclude
    dsimp only
    split
    · exact ⟨_, rfl⟩
    · exact ⟨[], silent⟩

theorem conclude_goes_on {done : Except HarnessError Bool × Outcome} {message : String}
    (goesOn : done.1 ≠ .error (.gaveUp message)) :
    (conclude options path output done).1 ≠ .error (.gaveUp message) := by
  obtain ⟨_ | delivered, o⟩ := done
  · exact goesOn
  · unfold conclude
    dsimp only
    split <;> exact fun gaveUp => nomatch gaveUp

theorem noted_left (done : Except HarnessError Bool × Outcome) :
    ∃ more, noted path done = { done.2 with log := done.2.log ++ more } := by
  have silent : done.2 = { done.2 with log := done.2.log ++ [] } := by rw [List.append_nil]
  unfold noted
  split
  · exact ⟨[], silent⟩
  · exact ⟨[], silent⟩
  · exact ⟨_, rfl⟩

end Turns

/-- The ways in which running one fixture goes. -/
inductive Course (engine : Engine) (options : HarnessOptions) (path : Path) (o : Outcome) :
    Except HarnessError Bool × Outcome → Prop
  | unloaded {e : FixtureError} (failed : Fixture.load o.files path = .error e) :
      Course engine options path o (.error (.fixture e), o)
  | gaveUp {message : String} (gaveUp : GivesUp engine o.files path) :
      Course engine options path o (.error (.gaveUp message), o)
  | idle {fixture : Fixture} {e : RunError} (loaded : Fixture.load o.files path = .ok fixture)
      (ended : (fixture.run engine o.files).2.aborted = none)
      (never : ∀ started, ¬ fixture.StartsAs engine o.files started) :
      Course engine options path o
        (.error (.run e), { o with log := o.log ++ (fixture.run engine o.files).2.log })
  | ran {fixture : Fixture} {output : HarnessOutput} {recorded : List ScriptError}
      (loaded : Fixture.load o.files path = .ok fixture)
      (ended : (fixture.run engine o.files).2.aborted = none)
      (ends : Ends engine o.files path output recorded) :
      Course engine options path o (conclude options path output
        (deliver options.mode path output
          (said path output (fixture.run engine o.files).2 o)))

theorem runOne_course (engine : Engine) (options : HarnessOptions) (path : Path) (o : Outcome) :
    Course engine options path o (runOne engine options path o) := by
  cases loaded : Fixture.load o.files path with
  | error e =>
    have failed : runOne engine options path o = (.error (.fixture e), o) := by
      unfold runOne
      rw [loaded]
    rw [failed]
    exact .unloaded loaded
  | ok fixture =>
    cases aborted : (fixture.run engine o.files).2.aborted with
    | some message =>
      rw [runOne_gaveUp loaded rfl aborted]
      exact .gaveUp ⟨fixture, message, loaded, aborted⟩
    | none =>
      by_cases starts : ∃ started, fixture.StartsAs engine o.files started
      · obtain ⟨started, starts⟩ := starts
        rw [runOne_eq loaded (Fixture.run_ended starts aborted) aborted]
        exact .ran loaded aborted
          ⟨fixture, started, _, loaded, starts, Fixture.run_ended starts aborted, rfl⟩
      · have never : ∀ started, ¬ fixture.StartsAs engine o.files started :=
          fun started this => starts ⟨started, this⟩
        obtain ⟨e, failed⟩ := Fixture.run_of_not_startsAs never
        have told : runOne engine options path o =
            (.error (.run e), { o with log := o.log ++ (fixture.run engine o.files).2.log }) := by
          unfold runOne
          rw [loaded]
          dsimp only
          rw [aborted, failed]
        rw [told]
        exact .idle loaded aborted never

section Courses

variable {engine : Engine} {options : HarnessOptions} {path : Path} {o : Outcome}
  {fixture : Fixture} {output : HarnessOutput} {recorded : List ScriptError}
  {done : Except HarnessError Bool × Outcome}

theorem Course.gaveUp_iff (course : Course engine options path o done) :
    (∃ message, done.1 = .error (.gaveUp message)) ↔ GivesUp engine o.files path := by
  cases course with
  | unloaded failed =>
    refine iff_of_false (fun ⟨_, same⟩ => nomatch same) ?_
    rintro ⟨fixture, message, loaded, -⟩
    exact nomatch failed.symm.trans loaded
  | gaveUp gaveUp => exact iff_of_true ⟨_, rfl⟩ gaveUp
  | idle loaded ended never =>
    rw [givesUp_iff loaded]
    exact iff_of_false (fun ⟨_, same⟩ => nomatch same) (not_not_intro ended)
  | ran loaded ended ends =>
    rw [givesUp_iff loaded]
    refine iff_of_false ?_ (not_not_intro ended)
    rintro ⟨message, same⟩
    exact conclude_goes_on _ _ _ ((delivery _ _ _ _).goesOn message) same

theorem toOption_eq_some_true {answer : Except HarnessError Bool} :
    answer.toOption = some true ↔ answer = .ok true := by
  cases answer <;> simp [Except.toOption]

theorem passed_iff {answer : Except HarnessError Bool} :
    answer.toOption.getD false = true ↔ answer = .ok true := by
  cases answer <;> simp [Except.toOption]

theorem sound_of_ends {h : ScriptHost} (loaded : Fixture.load o.files path = .ok fixture)
    (run : (fixture.run engine o.files).2 = h) (ended : h.aborted = none)
    (ends : Ends engine o.files path output recorded) :
    (turnOf path o (conclude options path output
      (deliver options.mode path output (said path output h o)))).Sound engine options := by
  have delivery := delivery options.mode path output (said path output h o)
  generalize deliver options.mode path output (said path output h o) = done at delivery ⊢
  obtain ⟨concluded, conclusion⟩ := conclude_left options path output done
  obtain ⟨last, note⟩ := noted_left path (conclude options path output done)
  rw [conclusion] at note
  have left : (turnOf path o (conclude options path output done)).left =
    { done.2 with log := done.2.log ++ concluded ++ last } := note
  have files : (turnOf path o (conclude options path output done)).left.files = done.2.files := by
    rw [left]
  refine ⟨fun _ => ?_, fun _ fixture' loaded' => ?_, ?_⟩
  · rw [turnOf, passed_iff, conclude_passes, toOption_eq_some_true, delivery.passes,
      ends.accepted_iff]
    constructor
    · rintro ⟨delivered, accepted⟩
      exact ⟨output, recorded, ends, files ▸ delivered, accepted⟩
    · rintro ⟨output', recorded', ends', delivered, accepted⟩
      obtain ⟨rfl, rfl⟩ := ends.unique ends'
      exact ⟨files ▸ delivered, accepted⟩
  · have same : fixture' = fixture := Except.ok.inj (loaded'.symm.trans loaded)
    obtain ⟨more, heard⟩ := delivery.log
    refine ⟨[countsLog path output] ++ more ++ concluded ++ last, ?_⟩
    rw [same, left, heard, said, turnOf, run]
    simp only [List.append_assoc]
  · obtain same | ⟨blessing, wrote⟩ := delivery.files
    · exact .inl (files.trans same)
    · rw [← files] at wrote
      refine .inr ⟨blessing, ?_, output, recorded, ends, wrote⟩
      intro gaveUp
      have aborted := (givesUp_iff loaded).1 gaveUp
      rw [run] at aborted
      exact aborted ended

theorem Course.sound (course : Course engine options path o done) :
    (turnOf path o done).Sound engine options := by
  obtain ⟨more, note⟩ := noted_left path done
  have left : (turnOf path o done).left = { done.2 with log := done.2.log ++ more } := note
  cases course with
  | @unloaded e failed =>
    have unread (fixture : Fixture) : Fixture.load o.files path ≠ .ok fixture := by
      rw [failed]
      exact fun same => nomatch same
    refine ⟨fun _ => iff_of_false Bool.false_ne_true ?_, ?_, .inl (by rw [left]; rfl)⟩
    · rintro ⟨output, recorded, ⟨fixture, started, left, loaded, -⟩, -⟩
      exact unread fixture loaded
    · exact fun _ fixture loaded => absurd loaded (unread fixture)
  | gaveUp gaveUp =>
    exact ⟨fun goesOn => absurd gaveUp goesOn, fun goesOn => absurd gaveUp goesOn, .inl rfl⟩
  | @idle fixture e loaded ended never =>
    refine ⟨fun _ => iff_of_false Bool.false_ne_true ?_, ?_, .inl (by rw [left]; rfl)⟩
    · rintro ⟨output, recorded, ⟨fixture', started, left, loaded', starts, -⟩, -⟩
      have same : fixture' = fixture := Except.ok.inj (loaded'.symm.trans loaded)
      exact never started (same ▸ starts)
    · intro _ fixture' loaded'
      have same : fixture' = fixture := Except.ok.inj (loaded'.symm.trans loaded)
      exact ⟨more, by rw [same, left]; rfl⟩
  | ran loaded ended ends => exact sound_of_ends loaded rfl ended ends

end Courses

section Programs

variable {engine : Engine} {options : HarnessOptions} {path : Path} {rest : List Path}
  {failed : Nat} {o : Outcome}

theorem runAll_gaveUp {message : String} {o' : Outcome}
    (done : runOne engine options path o = (.error (.gaveUp message), o')) :
    runAll engine options (path :: rest) failed o = (none, o') := by
  rw [runAll, done]

theorem runAll_next
    (goesOn : ∀ message, (runOne engine options path o).1 ≠ .error (.gaveUp message)) :
    let t := turnOf path o (runOne engine options path o)
    runAll engine options (path :: rest) failed o =
      runAll engine options rest (failed + if t.passed then 0 else 1) t.left := by
  rw [runAll]
  generalize runOne engine options path o = done at goesOn ⊢
  obtain ⟨answer, o'⟩ := done
  cases answer with
  | ok passed => cases passed <;> rfl
  | error e =>
    cases e with
    | gaveUp message => exact absurd rfl (goesOn message)
    | _ => rfl

def Finished (engine : Engine) (paths : List Path) (turns : List Turn) : Prop :=
  turns.map (·.path) = paths ∧ ∀ t ∈ turns, ¬ t.GivesUp engine

def Stopped (engine : Engine) (paths : List Path) (turns : List Turn) : Prop :=
  ∃ before last, turns = before ++ [last] ∧ turns.map (·.path) <+: paths ∧
    (∀ t ∈ before, ¬ t.GivesUp engine) ∧ last.GivesUp engine

theorem runAll_turns (engine : Engine) (options : HarnessOptions) (paths : List Path)
    (failed : Nat) (o : Outcome) :
    ∃ turns, Linked o turns (runAll engine options paths failed o).2 ∧
      (∀ t ∈ turns, t.Sound engine options) ∧
      (Finished engine paths turns ∧ (runAll engine options paths failed o).1 =
          some (failed + turns.countP (fun t => !t.passed)) ∨
        Stopped engine paths turns ∧ (runAll engine options paths failed o).1 = none) := by
  induction paths generalizing failed o with
  | nil => exact ⟨[], rfl, by simp, .inl ⟨⟨rfl, by simp⟩, rfl⟩⟩
  | cons path rest ih =>
    have course := runOne_course engine options path o
    let t := turnOf path o (runOne engine options path o)
    have sound : t.Sound engine options := course.sound
    by_cases gaveUp : GivesUp engine o.files path
    · obtain ⟨message, told⟩ := course.gaveUp_iff.2 gaveUp
      have done : runOne engine options path o =
          (.error (.gaveUp message), (runOne engine options path o).2) := Prod.ext told rfl
      rw [runAll_gaveUp done]
      have left : (runOne engine options path o).2 = t.left := by
        change _ = noted path (runOne engine options path o)
        rw [done]
        rfl
      exact ⟨[t], ⟨rfl, left⟩, by simpa using sound,
        .inr ⟨⟨[], t, rfl, ⟨rest, rfl⟩, by simp, gaveUp⟩, rfl⟩⟩
    · have goesOn : ∀ message, (runOne engine options path o).1 ≠ .error (.gaveUp message) :=
        fun message told => gaveUp (course.gaveUp_iff.1 ⟨message, told⟩)
      rw [runAll_next goesOn]
      obtain ⟨turns, linked, later, outcome⟩ := ih (failed + if t.passed then 0 else 1) t.left
      have went : ¬ t.GivesUp engine := gaveUp
      refine ⟨t :: turns, ⟨rfl, linked⟩, by simpa using ⟨sound, later⟩, ?_⟩
      obtain ⟨⟨paths, on⟩, count⟩ | ⟨⟨before, last, rfl, first, on, stop⟩, none⟩ := outcome
      · refine .inl ⟨⟨congrArg (path :: ·) paths, by simpa using ⟨went, on⟩⟩, ?_⟩
        rw [count, List.countP_cons]
        cases t.passed with
        | true => rfl
        | false =>
          simp only [Bool.not_false, Bool.false_eq_true, reduceIte, Option.some.injEq]
          omega
      · refine .inr ⟨⟨t :: before, last, rfl, ?_, by simpa using ⟨went, on⟩, stop⟩, none⟩
        exact List.cons_prefix_cons.2 ⟨rfl, first⟩

theorem Linked.written {turns : List Turn} {first last : Outcome} {ns : Place}
    (linked : Linked first turns last) (sound : ∀ t ∈ turns, t.Sound engine options)
    (changed : last.files.fileAt ns ≠ first.files.fileAt ns) :
    options.mode = .bless ∧ ∃ t ∈ turns, ¬ t.GivesUp engine ∧
      (∃ output recorded, Ends engine t.met.files t.path output recorded) ∧
      t.met.files.locate (Fixture.goldenPath t.path) = .ok (ns, false) := by
  induction turns generalizing first with
  | nil =>
    cases linked
    exact absurd rfl changed
  | cons t rest ih =>
    obtain ⟨rfl, linked⟩ := linked
    obtain ⟨here, later⟩ := List.forall_mem_cons.1 sound
    by_cases now : t.left.files.fileAt ns = t.met.files.fileAt ns
    · rw [← now] at changed
      obtain ⟨blessing, u, mem, facts⟩ := ih linked later changed
      exact ⟨blessing, u, List.mem_cons_of_mem t mem, facts⟩
    · obtain same | ⟨blessing, on, output, recorded, ends, wrote⟩ := here.written
      · rw [same] at now
        exact absurd rfl now
      · exact ⟨blessing, t, List.mem_cons_self, on, ⟨output, recorded, ends⟩,
          Files.fileAt_write wrote now⟩

end Programs

/-- How the program judges fixtures: by these turns, which end in this outcome. -/
structure Judged (engine : Engine) (options : HarnessOptions) (files : Files) (turns : List Turn)
    (left : Outcome) : Prop where
  /-- The turns follow one another, from the files that the program finds to those it leaves. -/
  linked : ∃ last, Linked ⟨0, "", [startedLog name], files⟩ turns last ∧
    left.files = last.files ∧ left.output = last.output ∧ ∃ more, left.log = last.log ++ more
  sound : ∀ t ∈ turns, t.Sound engine options
  counted : ∀ t ∈ turns, ∀ output recorded, Ends engine t.met.files t.path output recorded →
    output.failureCounts.total = recorded.length
  written : ∀ ns, left.files.fileAt ns ≠ files.fileAt ns → options.mode = .bless ∧
    ∃ t ∈ turns, ¬ t.GivesUp engine ∧
      (∃ output recorded, Ends engine t.met.files t.path output recorded) ∧
      t.met.files.locate (Fixture.goldenPath t.path) = .ok (ns, false)
  verdict : Finished engine options.fixtures turns ∧
      (left.exitCode = 0 ∧ (∀ t ∈ turns, t.Passes engine options) ∨
        left.exitCode = 1 ∧ ¬ ∀ t ∈ turns, t.Passes engine options) ∨
    Stopped engine options.fixtures turns ∧ left.exitCode = gaveUpCode

/-- Every fixture has its turn, whatever came of those before, and the program ends with zero
exactly when all of them pass and with one when some do not; unless the host's own code gives up
during a turn, which is the last then. -/
theorem run_judges (engine : Engine) (files : Files) {args : List String}
    {options : HarnessOptions} (parsed : HarnessOptions.parse args = .ok options) :
    ∃ turns, Judged engine options files turns (run engine files args) := by
  obtain ⟨turns, linked, sound, outcome⟩ :=
    runAll_turns engine options options.fixtures 0 ⟨0, "", [startedLog name], files⟩
  have counted : ∀ t ∈ turns, ∀ output recorded, Ends engine t.met.files t.path output recorded →
      output.failureCounts.total = recorded.length := fun _ _ _ _ ends => ends.counted
  unfold run
  rw [parsed]
  dsimp only
  generalize runAll engine options options.fixtures 0 ⟨0, "", [startedLog name], files⟩ = done
    at linked outcome ⊢
  obtain ⟨tally, last⟩ := done
  dsimp only at linked outcome ⊢
  obtain ⟨finished, rfl⟩ | ⟨stopped, rfl⟩ := outcome
  · refine ⟨turns, ⟨last, linked, rfl, rfl, _, rfl⟩, sound, counted, fun ns => linked.written sound,
      .inl ⟨finished, ?_⟩⟩
    have passes : (∀ t ∈ turns, t.Passes engine options) ↔
        turns.countP (fun t => !t.passed) = 0 := by
      rw [List.countP_eq_zero]
      refine forall₂_congr fun t mem => ?_
      rw [← (sound t mem).passed (finished.2 t mem)]
      simp
    rw [passes, Nat.zero_add]
    dsimp only
    split
    · next failures => exact .inr ⟨rfl, Nat.ne_of_gt failures⟩
    · next none => exact .inl ⟨rfl, Nat.eq_zero_of_not_pos none⟩
  · exact ⟨turns, ⟨last, linked, rfl, rfl, [], (List.append_nil _).symm⟩, sound, counted,
      fun ns => linked.written sound, .inr ⟨stopped, rfl⟩⟩

def afterMissing : Outcome :=
  run .standard (probing "let x = 1;").files ["script_harness", "--bless", "none.json", "f.json"]

theorem afterMissing_blesses : afterMissing.exitCode = 1 ∧
    (afterMissing.files.lookup "f.golden.json").toOption.isSome = true := by
  decide +kernel

/-- A fixture has its turn, and its output is written, although the one before could not be read. -/
theorem missing_does_not_stop : afterMissing.exitCode = 1 ∧
    (afterMissing.files.lookup "f.golden.json").toOption.isSome = true ∧
    ∃ turns : List Turn, turns.map (·.path) = ["none.json", "f.json"] ∧
      ¬ ∀ t ∈ turns, t.Passes .standard ⟨["none.json", "f.json"], .bless, false⟩ := by
  obtain ⟨failed, written⟩ := afterMissing_blesses
  have parsed : HarnessOptions.parse ["script_harness", "--bless", "none.json", "f.json"] =
      .ok ⟨["none.json", "f.json"], .bless, false⟩ := by
    decide +kernel
  obtain ⟨turns, judged⟩ := run_judges .standard (probing "let x = 1;").files parsed
  refine ⟨failed, written, turns, ?_⟩
  change (run _ _ _).exitCode = 1 at failed
  obtain ⟨⟨paths, -⟩, ⟨passed, -⟩ | ⟨-, fails⟩⟩ | ⟨-, stopped⟩ := judged.verdict
  · rw [failed] at passed
    cases passed
  · exact ⟨paths, fails⟩
  · rw [failed] at stopped
    cases stopped

def unordered : Files := (probing "random_range(0.0 / 0.0, 1.0);").files

def unorderedStart : InitReport × ScriptHost :=
  (probed.hosted (ScriptHost.ofConfig probed.config).players).start .standard unordered

theorem unordered_facts : (Fixture.load unordered "f.json").toOption = some probed ∧
    unorderedStart.1.setupError = none ∧ unorderedStart.2.failures = [] ∧
    (probed.run .standard unordered).2.failures = [] ∧
    (run .standard unordered ["script_harness", "f.json"]).exitCode = gaveUpCode := by
  decide +kernel

/-- A fixture is loaded and set up, and no failure is recorded; but its script takes the host down
with a bound that is no number, and the program with it. -/
theorem unordered_range_unjudged :
    let left := run .standard unordered ["script_harness", "f.json"]
    (∃ output, Ends .standard unordered "f.json" output []) ∧ left.exitCode ≠ 0 ∧
      left.exitCode ≠ 1 := by
  obtain ⟨loaded, sound, none, quiet, left⟩ := unordered_facts
  have starts : probed.StartsAs .standard unordered unorderedStart := ⟨_, rfl, rfl, sound⟩
  have ran : probed.run .standard unordered =
      (.ok (probed.outputOf .standard unorderedStart), (probed.run .standard unordered).2) := by
    rw [Fixture.run_of_startsAs starts]
    rfl
  refine ⟨⟨_, probed, unorderedStart, _, eq_of_toOption loaded rfl, starts, ran, ?_⟩, ?_, ?_⟩
  · rw [none, quiet]
    rfl
  · rw [left]
    decide
  · rw [left]
    decide

end HarnessProgram

end ModHost
