import Mathlib.Data.List.Basic
import ModHost.CommandLine

set_option autoImplicit false

/-!
# Arguments of the harness

The arguments of the harness are sorted word by word, so flags can stand anywhere among the
fixtures, and the options depend on which flags there are and on the order of the fixtures. A
command line needs a fixture, and must have no unknown flag and not both modes. This is enough when
no flag of a mode is repeated. A repeated one counts as two modes, and the command line is refused
with the words for both.
-/

namespace ModHost.HarnessOptions

/-- Words that begin as flags do. -/
def IsFlag (word : String) : Prop := ['-', '-'] <+: word.toList

instance : DecidablePred IsFlag := fun word => inferInstanceAs (Decidable (_ <+: word.toList))

def flags : List String := ["--check", "--bless", "--allow-failures"]

def IsUnknown (word : String) : Prop := IsFlag word ∧ word ∉ flags

instance : DecidablePred IsUnknown := fun word =>
  inferInstanceAs (Decidable (IsFlag word ∧ word ∉ flags))

theorem isSome_flagName? (word : String) : (flagName? word).isSome = true ↔ IsFlag word := by
  unfold flagName? IsFlag
  split
  · next name split =>
    rw [split]
    simp
  · next other =>
    simp only [Option.isSome_none, Bool.false_eq_true, false_iff]
    rintro ⟨name, is⟩
    exact other name is.symm

inductive TakenFor (word : String) : Word → Prop
  | check (is : word = "--check") : TakenFor word (.mode .check)
  | bless (is : word = "--bless") : TakenFor word (.mode .bless)
  | allowFailures (is : word = "--allow-failures") : TakenFor word .allowFailures
  | unknown (odd : IsUnknown word) : TakenFor word (.unknown word)
  | fixture (plain : ¬ IsFlag word) : TakenFor word (.fixture word)

theorem takenFor_ofArgument (word : String) : TakenFor word (Word.ofArgument word) := by
  unfold Word.ofArgument
  split
  · next is => exact .check is
  · next unchecked =>
    split
    · next is => exact .bless is
    · next unblessed =>
      split
      · next is => exact .allowFailures is
      · next strict =>
        split
        · next flag =>
          exact .unknown ⟨(isSome_flagName? word).1 flag,
            by simp [flags, unchecked, unblessed, strict]⟩
        · next plain => exact .fixture (mt (isSome_flagName? word).2 plain)

theorem isFlag_of_mem {word : String} (mem : word ∈ flags) : IsFlag word := by
  have each : ∀ f ∈ flags, IsFlag f := by decide
  exact each word mem

theorem filterMap_ofArgument {α : Type} {pick : Word → Option α} {choose : String → Option α}
    (same : ∀ w word, TakenFor w word → pick word = choose w) (args : List String) :
    (args.map Word.ofArgument).filterMap pick = args.filterMap choose := by
  rw [List.filterMap_map]
  exact List.filterMap_congr fun w _ => same w _ (takenFor_ofArgument w)

theorem unknowns_ofArgument (args : List String) : unknowns (args.map Word.ofArgument) =
    args.filter (IsUnknown ·) := by
  rw [← List.filterMap_eq_filter]
  refine filterMap_ofArgument ?_ args
  intro w word taken
  cases taken with
  | check is | bless is | allowFailures is =>
    subst is
    rfl
  | unknown odd => simp [odd]
  | fixture plain => simp [Option.guard, show ¬ IsUnknown w from fun odd => plain odd.1]

theorem fixturesOf_ofArgument (args : List String) : fixturesOf (args.map Word.ofArgument) =
    args.filter fun w => ¬ IsFlag w := by
  rw [← List.filterMap_eq_filter]
  refine filterMap_ofArgument ?_ args
  intro w word taken
  cases taken with
  | check is | bless is | allowFailures is =>
    subst is
    rfl
  | unknown odd => simp [Option.guard, odd.1]
  | fixture plain => simp [plain]

def modeNamed? (word : String) : Option GoldenMode :=
  if word = "--check" then some .check else if word = "--bless" then some .bless else none

theorem modeNamed?_eq_some {word : String} {m : GoldenMode} : modeNamed? word = some m ↔
    (word = "--check" ∧ m = .check) ∨ (word = "--bless" ∧ m = .bless) := by
  unfold modeNamed?
  split
  · next is => simp [is, eq_comm]
  · next unchecked =>
    split
    · next is => simp [is, eq_comm]
    · next unblessed => simp [unchecked, unblessed]

theorem modes_ofArgument (args : List String) :
    modes (args.map Word.ofArgument) = args.filterMap modeNamed? := by
  refine filterMap_ofArgument ?_ args
  intro w word taken
  have named (not_flag : w ∉ flags) : modeNamed? w = none := by
    rw [Option.eq_none_iff_forall_ne_some]
    intro m is
    obtain ⟨rfl, -⟩ | ⟨rfl, -⟩ := modeNamed?_eq_some.1 is <;> exact not_flag (by decide)
  cases taken with
  | check is | bless is | allowFailures is =>
    subst is
    rfl
  | unknown odd => exact (named odd.2).symm
  | fixture plain => exact (named (mt isFlag_of_mem plain)).symm

theorem mem_modes {args : List String} {m : GoldenMode} : m ∈ args.filterMap modeNamed? ↔
    ("--check" ∈ args ∧ m = .check) ∨ ("--bless" ∈ args ∧ m = .bless) := by
  rw [List.mem_filterMap]
  constructor
  · rintro ⟨w, mem, is⟩
    obtain ⟨rfl, rfl⟩ | ⟨rfl, rfl⟩ := modeNamed?_eq_some.1 is
    · exact .inl ⟨mem, rfl⟩
    · exact .inr ⟨mem, rfl⟩
  · rintro (⟨mem, rfl⟩ | ⟨mem, rfl⟩)
    · exact ⟨_, mem, rfl⟩
    · exact ⟨_, mem, rfl⟩

/-- How many words are flags of a mode, repeated ones included. -/
def modeFlags (args : List String) : Nat := args.count "--check" + args.count "--bless"

theorem length_modes (args : List String) :
    (args.filterMap modeNamed?).length = modeFlags args := by
  unfold modeFlags
  induction args with
  | nil => rfl
  | cons w rest ih =>
    by_cases check : w = "--check"
    · subst check
      have named : modeNamed? "--check" = some .check := rfl
      rw [List.filterMap_cons_some named, List.length_cons, ih, List.count_cons_self,
        List.count_cons_of_ne (by decide)]
      omega
    · by_cases bless : w = "--bless"
      · subst bless
        have named : modeNamed? "--bless" = some .bless := rfl
        rw [List.filterMap_cons_some named, List.length_cons, ih, List.count_cons_self,
          List.count_cons_of_ne (by decide)]
        omega
      · have named : modeNamed? w = none := by simp [modeNamed?, check, bless]
        rw [List.filterMap_cons_none named, ih, List.count_cons_of_ne check,
          List.count_cons_of_ne bless]

theorem head_modes {args : List String} (single : modeFlags args ≤ 1) :
    (args.filterMap modeNamed?).head?.getD .print =
      if "--check" ∈ args then .check else if "--bless" ∈ args then .bless else .print := by
  rw [← length_modes] at single
  have check := @mem_modes args .check
  have bless := @mem_modes args .bless
  have print := @mem_modes args .print
  match modes : args.filterMap modeNamed? with
  | [] => simp_all
  | [m] => cases m <;> simp_all
  | _ :: _ :: _ => simp_all

theorem mem_ofArgument (args : List String) :
    .allowFailures ∈ args.map Word.ofArgument ↔ "--allow-failures" ∈ args := by
  rw [List.mem_map]
  constructor
  · rintro ⟨w, mem, is⟩
    have taken := takenFor_ofArgument w
    rw [is] at taken
    cases taken with
    | allowFailures named => exact named ▸ mem
  · intro mem
    exact ⟨_, mem, rfl⟩

def AllKnown (args : List String) : Prop := ∀ w ∈ args, IsFlag w → w ∈ flags

instance (args : List String) : Decidable (AllKnown args) :=
  inferInstanceAs (Decidable (∀ w ∈ args, IsFlag w → w ∈ flags))

/-- No unknown flag, at least one fixture, and not both modes. -/
structure Acceptable (args : List String) : Prop where
  known : AllKnown args
  fixture : ∃ w ∈ args, ¬ IsFlag w
  exclusive : ¬ ("--check" ∈ args ∧ "--bless" ∈ args)

structure ModeOnce (args : List String) : Prop where
  check : args.count "--check" ≤ 1
  bless : args.count "--bless" ≤ 1

theorem modeFlags_le_one {args : List String} : modeFlags args ≤ 1 ↔
    ¬ ("--check" ∈ args ∧ "--bless" ∈ args) ∧ ModeOnce args := by
  have check := @List.count_pos_iff _ _ _ "--check" args
  have bless := @List.count_pos_iff _ _ _ "--bless" args
  rw [← check, ← bless]
  unfold modeFlags
  constructor
  · intro single
    exact ⟨by omega, by omega, by omega⟩
  · rintro ⟨exclusive, once⟩
    have := once.check
    have := once.bless
    omega

/-- Why a command line is refused. The first unknown flag comes before the number of modes, and
that before the lack of fixtures. -/
inductive Refused (args : List String) : CommandLineError → Prop
  | unknown {w : String} (first : args.find? (IsUnknown ·) = some w) :
      Refused args (.unknownSwitch w)
  | modes (known : AllKnown args) (many : 1 < modeFlags args) : Refused args .exclusiveModes
  | fixtures (known : AllKnown args) (single : modeFlags args ≤ 1) (none : ∀ w ∈ args, IsFlag w) :
      Refused args .noFixture

def named (args : List String) : HarnessOptions :=
  { fixtures := args.filter fun w => ¬ IsFlag w
    mode := if "--check" ∈ args then .check else if "--bless" ∈ args then .bless else .print
    allowFailures := "--allow-failures" ∈ args }

theorem allKnown_iff {args : List String} :
    AllKnown args ↔ args.find? (IsUnknown ·) = none := by
  rw [List.find?_eq_none]
  refine forall₂_congr fun w _ => ?_
  rw [decide_eq_true_eq, IsUnknown, not_and, not_not]

theorem not_allKnown {args : List String} {w : String}
    (first : args.find? (IsUnknown ·) = some w) : ¬ AllKnown args := by
  intro known
  rw [allKnown_iff.1 known] at first
  cases first

theorem parse_cases (words : List String) :
    (parse words = .ok (named words.tail) ∧ Acceptable words.tail ∧ ModeOnce words.tail) ∨
      ∃ e, parse words = .error e ∧ Refused words.tail e := by
  unfold parse
  rw [List.drop_one]
  generalize words.tail = args
  dsimp only
  rw [unknowns_ofArgument, fixturesOf_ofArgument, modes_ofArgument, length_modes]
  split
  · next w _ unknown =>
    have first : args.find? (IsUnknown ·) = some w := by
      rw [← List.head?_filter, unknown]
      rfl
    exact .inr ⟨_, rfl, .unknown first⟩
  · next none_unknown =>
    have known : AllKnown args := by
      rw [allKnown_iff, ← List.head?_filter, none_unknown]
      rfl
    split
    · next many => exact .inr ⟨_, rfl, .modes known many⟩
    · next single =>
      have single : modeFlags args ≤ 1 := Nat.le_of_not_lt single
      split
      · next empty =>
        have none (w : String) (mem : w ∈ args) : IsFlag w := by
          simpa using List.filter_eq_nil_iff.1 (List.isEmpty_iff.1 empty) w mem
        exact .inr ⟨_, rfl, .fixtures known single none⟩
      · next filled =>
        obtain ⟨exclusive, once⟩ := modeFlags_le_one.1 single
        have fixture : ∃ w ∈ args, ¬ IsFlag w := by
          simpa using filled
        refine .inl ⟨?_, ⟨known, fixture, exclusive⟩, once⟩
        rw [head_modes single]
        have allow : (args.map Word.ofArgument).contains .allowFailures =
            decide ("--allow-failures" ∈ args) := by
          rw [List.contains_eq_mem, decide_eq_decide]
          exact mem_ofArgument args
        rw [allow]
        rfl

/-- What is refused is not acceptable with each mode once. -/
theorem Refused.not_acceptable {args : List String} {e : CommandLineError}
    (refused : Refused args e) (acceptable : Acceptable args) : ¬ ModeOnce args := by
  cases refused with
  | unknown first => exact absurd acceptable.known (not_allKnown first)
  | modes known many =>
    intro once
    exact absurd (modeFlags_le_one.2 ⟨acceptable.exclusive, once⟩) (Nat.not_le_of_lt many)
  | fixtures known single none =>
    obtain ⟨w, mem, plain⟩ := acceptable.fixture
    exact absurd (none w mem) plain

theorem Refused.unique {args : List String} {e e' : CommandLineError} (refused : Refused args e)
    (again : Refused args e') : e' = e := by
  cases refused with
  | unknown first =>
    cases again with
    | unknown first' => rw [Option.some.inj (first'.symm.trans first)]
    | modes known _ | fixtures known _ _ => exact absurd known (not_allKnown first)
  | modes known many =>
    cases again with
    | unknown first => exact absurd known (not_allKnown first)
    | modes => rfl
    | fixtures _ single _ => omega
  | fixtures known single none =>
    cases again with
    | unknown first => exact absurd known (not_allKnown first)
    | modes _ many => omega
    | fixtures => rfl

theorem parse_eq_ok {words : List String} {o : HarnessOptions} : parse words = .ok o ↔
    Acceptable words.tail ∧ ModeOnce words.tail ∧ o = named words.tail := by
  obtain ⟨parsed, acceptable, once⟩ | ⟨e, parsed, refused⟩ := parse_cases words
  · rw [parsed, Except.ok.injEq]
    exact ⟨fun is => ⟨acceptable, once, is.symm⟩, fun is => is.2.2.symm⟩
  · rw [parsed]
    exact ⟨nofun, fun is => absurd is.2.1 (refused.not_acceptable is.1)⟩

theorem parse_eq_error {words : List String} {e : CommandLineError} :
    parse words = .error e ↔ Refused words.tail e := by
  obtain ⟨parsed, acceptable, once⟩ | ⟨e', parsed, refused⟩ := parse_cases words
  · rw [parsed]
    exact ⟨nofun, fun refused => absurd once (refused.not_acceptable acceptable)⟩
  · rw [parsed, Except.error.injEq]
    exact ⟨fun is => is ▸ refused, fun again => again.unique refused⟩

/-- Two command lines that have the same fixtures in the same order, and the same flags, wherever
these stand and however often. -/
structure SameWords (args other : List String) : Prop where
  fixtures : (other.filter fun w => ¬ IsFlag w) = args.filter fun w => ¬ IsFlag w
  flags : ∀ w, IsFlag w → (w ∈ other ↔ w ∈ args)

theorem SameWords.mem_iff {args other : List String} (same : SameWords args other) (w : String) :
    w ∈ other ↔ w ∈ args := by
  by_cases flag : IsFlag w
  · exact same.flags w flag
  · have mem := congrArg (w ∈ ·) same.fixtures
    simpa [flag] using mem

theorem SameWords.named_eq {args other : List String} (same : SameWords args other) :
    named other = named args := by
  unfold named
  rw [same.fixtures]
  simp only [same.mem_iff]

/-- Whether words are acceptable is a matter of which there are. -/
theorem Acceptable.of_mem_iff {args other : List String} (acceptable : Acceptable args)
    (same : ∀ w, w ∈ other ↔ w ∈ args) : Acceptable other where
  known w mem := acceptable.known w ((same w).1 mem)
  fixture := by
    obtain ⟨w, mem, plain⟩ := acceptable.fixture
    exact ⟨w, (same w).2 mem, plain⟩
  exclusive both := acceptable.exclusive ⟨(same _).1 both.1, (same _).1 both.2⟩

theorem SameWords.acceptable {args other : List String} (same : SameWords args other) :
    Acceptable other ↔ Acceptable args :=
  ⟨fun acceptable => acceptable.of_mem_iff fun w => (same.mem_iff w).symm,
    fun acceptable => acceptable.of_mem_iff same.mem_iff⟩

/-- The words after a program's name are accepted exactly if they have no unknown flag, have a
fixture, do not have both modes, and do not have a mode twice. Where they stand and how often the
flags without a mode are repeated makes no difference. -/
theorem accepts_flags_anywhere (words : List String) :
    (∀ o, parse words = .ok o ↔
      Acceptable words.tail ∧ ModeOnce words.tail ∧ o = named words.tail) ∧
      (∀ e, parse words = .error e ↔ Refused words.tail e) ∧
      ∀ other, SameWords words.tail other.tail → ModeOnce words.tail → ModeOnce other.tail →
        ∀ o, parse other = .ok o ↔ parse words = .ok o := by
  refine ⟨fun o => parse_eq_ok, fun e => parse_eq_error, ?_⟩
  intro other same once once' o
  rw [parse_eq_ok, parse_eq_ok, same.acceptable, same.named_eq]
  simp [once, once']

/-- One mode, refused as both. -/
theorem repeated_check_refused : Acceptable ["--check", "--check", "a.json"] ∧
    parse ["harness", "--check", "--check", "a.json"] = .error .exclusiveModes := by
  refine ⟨⟨?_, ?_, ?_⟩, rfl⟩ <;> decide

theorem scattered_flags_accepted :
    parse ["harness", "b.json", "--allow-failures", "--check", "a.json", "--allow-failures"] =
        .ok ⟨["b.json", "a.json"], .check, true⟩ ∧
      parse ["harness", "--check", "--allow-failures", "b.json", "a.json"] =
        .ok ⟨["b.json", "a.json"], .check, true⟩ := by
  have acceptable : Acceptable
      ["b.json", "--allow-failures", "--check", "a.json", "--allow-failures"] := by
    refine ⟨?_, ?_, ?_⟩ <;> decide
  have once : ModeOnce ["b.json", "--allow-failures", "--check", "a.json", "--allow-failures"] := by
    constructor <;> decide
  have same : SameWords ["b.json", "--allow-failures", "--check", "a.json", "--allow-failures"]
      ["--check", "--allow-failures", "b.json", "a.json"] := by
    refine ⟨by decide, fun w _ => ?_⟩
    simp only [List.mem_cons, List.not_mem_nil]
    grind
  obtain ⟨accepted, -, moved⟩ := accepts_flags_anywhere
    ["harness", "b.json", "--allow-failures", "--check", "a.json", "--allow-failures"]
  have scattered := (accepted _).2 ⟨acceptable, once, rfl⟩
  exact ⟨scattered, (moved ["harness", "--check", "--allow-failures", "b.json", "a.json"] same once
    (by constructor <;> decide) _).2 scattered⟩

end ModHost.HarnessOptions
