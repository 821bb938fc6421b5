import ModHost.CommandLine

set_option autoImplicit false

/-!
# Flags of the host

The words of a host's command line go in pairs, a flag and its value, and what they set is a matter
of the last value that each flag has. So words that follow others replace the options that they
name and leave the rest, and a configuration can take the options of both at once or one after the
other. It keeps every setting that no flag names, and never gets more players than there are slots.
-/

namespace ModHost

theorem flagName?_eq_some {word name : String} :
    flagName? word = some name ↔ word = "--" ++ name := by
  unfold flagName?
  constructor
  · intro named
    split at named
    · next split =>
      cases named
      rw [← String.toList_inj, split]
      simp
    · cases named
  · rintro rfl
    simp

namespace HostOptions

def replacedBy (o later : HostOptions) : HostOptions :=
  { config := later.config.or o.config, frames := later.frames.or o.frames,
    role := later.role.or o.role, players := later.players.or o.players,
    hotReload := later.hotReload.or o.hotReload }

theorem replacedBy_empty (o : HostOptions) : o.replacedBy empty = o := rfl

theorem setFlag_replacedBy (o p : HostOptions) (name value : String) :
    (o.replacedBy p).setFlag name value = (p.setFlag name value).map o.replacedBy := by
  unfold setFlag
  split
  · rfl
  · cases numberUpTo (UInt32.size - 1) value <;> rfl
  · cases HostRole.parse value <;> rfl
  · cases numberUpTo (UInt64.size - 1) value <;> rfl
  · cases switch "hot-reload" value <;> rfl
  · rfl

theorem extend_replacedBy (o p : HostOptions) (words : List String) :
    (o.replacedBy p).extend words = (p.extend words).map o.replacedBy := by
  fun_induction extend p words with
  | case1 p => rfl
  | case2 p word unnamed => simp [extend, unnamed, Except.map]
  | case3 p word name named => simp [extend, named, Except.map]
  | case4 p word value rest unnamed => simp [extend, unnamed, Except.map]
  | case5 p word value rest name named q set ih =>
    simp [extend, named, setFlag_replacedBy, set, Except.map, ih]
  | case6 p word value rest name named e refused =>
    simp [extend, named, setFlag_replacedBy, refused, Except.map]

theorem extend_eq (o : HostOptions) (words : List String) :
    o.extend words = (empty.extend words).map o.replacedBy := by
  rw [← extend_replacedBy, replacedBy_empty]

theorem extend_append {o p : HostOptions} {words : List String} (accepted : o.extend words = .ok p)
    (more : List String) : o.extend (words ++ more) = p.extend more := by
  fun_induction extend o words with
  | case1 o =>
    cases accepted
    rfl
  | case2 o word unnamed => cases accepted
  | case3 o word name named => cases accepted
  | case4 o word value rest unnamed => cases accepted
  | case5 o word value rest name named q set ih => simpa [extend, named, set] using ih accepted
  | case6 o word value rest name named e refused => cases accepted

theorem parse_append (program : String) {a : List String} {first : HostOptions}
    (accepted : parse (program :: a) = .ok first) (b : List String) :
    parse (program :: (a ++ b)) = (parse (program :: b)).map first.replacedBy :=
  (extend_append accepted b).trans (extend_eq first b)

/-- The last value that a flag has among words that go in pairs. -/
def lastValue? (flag : String) : List String → Option String
  | word :: value :: rest => (lastValue? flag rest).or (if word = flag then some value else none)
  | _ => none

def gives (flag : String) (words : List String) : Bool := (lastValue? flag words).isSome

/-- The options are what the last values of the flags read as, and no others are set. -/
structure SetBy (words : List String) (o : HostOptions) : Prop where
  config : lastValue? "--config" words = o.config
  frames : (lastValue? "--frames" words).map (numberUpTo (UInt32.size - 1)) = o.frames.map .ok
  role : (lastValue? "--role" words).map HostRole.parse = o.role.map some
  players : (lastValue? "--players" words).map (numberUpTo (UInt64.size - 1)) =
    o.players.map .ok
  hotReload : (lastValue? "--hot-reload" words).map (switch "hot-reload") = o.hotReload.map .ok

theorem setBy_pair {name value : String} {p : HostOptions}
    (set : empty.setFlag name value = .ok p) : SetBy ["--" ++ name, value] p := by
  unfold setFlag at set
  split at set
  · cases set
    exact ⟨rfl, rfl, rfl, rfl, rfl⟩
  · split at set
    · next read =>
      cases set
      exact ⟨rfl, congrArg some read, rfl, rfl, rfl⟩
    · cases set
  · split at set
    · next read =>
      cases set
      exact ⟨rfl, rfl, congrArg some read, rfl, rfl⟩
    · cases set
  · split at set
    · next read =>
      cases set
      exact ⟨rfl, rfl, rfl, congrArg some read, rfl⟩
    · cases set
  · split at set
    · next read =>
      cases set
      exact ⟨rfl, rfl, rfl, rfl, congrArg some read⟩
    · cases set
  · cases set

theorem lastValue?_pair (flag word value : String) (rest : List String) :
    lastValue? flag (word :: value :: rest) =
      (lastValue? flag rest).or (lastValue? flag [word, value]) := by
  simp [lastValue?]

theorem read_pair {α γ : Type} {flag word value : String} {rest : List String} {x y : Option α}
    {read : String → γ} {is : α → γ}
    (one : (lastValue? flag [word, value]).map read = x.map is)
    (others : (lastValue? flag rest).map read = y.map is) :
    (lastValue? flag (word :: value :: rest)).map read = (y.or x).map is := by
  rw [lastValue?_pair, Option.map_or, others, one, Option.map_or]

theorem SetBy.pair {word value : String} {rest : List String} {p q : HostOptions}
    (one : SetBy [word, value] p) (others : SetBy rest q) :
    SetBy (word :: value :: rest) (p.replacedBy q) where
  config := by
    rw [lastValue?_pair, others.config, one.config]
    rfl
  frames := read_pair one.frames others.frames
  role := read_pair one.role others.role
  players := read_pair one.players others.players
  hotReload := read_pair one.hotReload others.hotReload

theorem setBy_of_extend : ∀ {words : List String} {o : HostOptions},
    empty.extend words = .ok o → SetBy words o
  | [], _, rfl => ⟨rfl, rfl, rfl, rfl, rfl⟩
  | [word], o, accepted => by
    unfold extend at accepted
    split at accepted <;> cases accepted
  | word :: value :: rest, o, accepted => by
    unfold extend at accepted
    split at accepted
    · cases accepted
    · next name named =>
      split at accepted
      · next one set =>
        rw [extend_eq] at accepted
        cases further : empty.extend rest with
        | error e =>
          rw [further] at accepted
          cases accepted
        | ok others =>
          rw [further] at accepted
          cases accepted
          have pair := setBy_pair set
          rw [← flagName?_eq_some.1 named] at pair
          exact pair.pair (setBy_of_extend further)
      · cases accepted

theorem setBy_of_parse {program : String} {words : List String} {o : HostOptions}
    (accepted : parse (program :: words) = .ok o) : SetBy words o := setBy_of_extend accepted

example : parse ["host", "--config", "--frames", "--frames", "7"] =
    .ok ⟨some "--frames", some 7, none, none, none⟩ := rfl

theorem isSome_of_read {α β γ : Type} {x : Option α} {y : Option β} {read : α → γ} {is : β → γ}
    (same : x.map read = y.map is) : y.isSome = x.isSome := by
  simpa using (congrArg Option.isSome same).symm

theorem or_eq_ite {α : Type} {later earlier : Option α} {given : Bool}
    (set : later.isSome = given) : later.or earlier = if given then later else earlier := by
  subst set
  cases later <;> rfl

/-- The options of one command line, those of the words behind it, and those of both: each option
is the later one where the later words give its flag, and the earlier one elsewhere. -/
structure Continued (words : List String) (first second both : HostOptions) : Prop where
  config : both.config = if gives "--config" words then second.config else first.config
  frames : both.frames = if gives "--frames" words then second.frames else first.frames
  role : both.role = if gives "--role" words then second.role else first.role
  players : both.players = if gives "--players" words then second.players else first.players
  hotReload : both.hotReload =
    if gives "--hot-reload" words then second.hotReload else first.hotReload

theorem SetBy.continued {words : List String} {second : HostOptions} (set : SetBy words second)
    (first : HostOptions) : Continued words first second (first.replacedBy second) where
  config := or_eq_ite (congrArg Option.isSome set.config.symm)
  frames := or_eq_ite (isSome_of_read set.frames)
  role := or_eq_ite (isSome_of_read set.role)
  players := or_eq_ite (isSome_of_read set.players)
  hotReload := or_eq_ite (isSome_of_read set.hotReload)

/-- A configuration before and after it takes the options of a command line. It has the settings
that the flags name, with as many players as there are slots for, and is else the one it was. -/
structure Taken (words : List String) (o : HostOptions) (c c' : ScriptingConfig) : Prop where
  role : some c'.role = if gives "--role" words then o.role else some c.role
  players : some c'.maxPlayers =
    if gives "--players" words then o.players.map (min · 256) else some c.maxPlayers
  hotReload : some c'.hotReload =
    if gives "--hot-reload" words then o.hotReload else some c.hotReload
  others : c' =
    { c with role := c'.role, maxPlayers := c'.maxPlayers, hotReload := c'.hotReload }
  room : c.maxPlayers ≤ 256 → c'.maxPlayers ≤ 256

theorem SetBy.taken {words : List String} {o : HostOptions} (set : SetBy words o)
    (c : ScriptingConfig) : Taken words o c (c.apply o.overrides) where
  role := by
    have given : o.role.isSome = gives "--role" words := isSome_of_read set.role
    rw [← or_eq_ite given, Option.or_some]
    rfl
  players := by
    have given : (o.players.map (min · 256)).isSome = gives "--players" words :=
      Option.isSome_map.trans (isSome_of_read set.players)
    rw [← or_eq_ite given]
    unfold ScriptingConfig.apply overrides
    cases o.players <;> rfl
  hotReload := by
    have given : o.hotReload.isSome = gives "--hot-reload" words := isSome_of_read set.hotReload
    rw [← or_eq_ite given, Option.or_some]
    rfl
  others := rfl
  room fits := by
    unfold ScriptingConfig.apply
    dsimp only
    split
    · exact Nat.min_le_right _ _
    · exact fits

theorem apply_replacedBy (c : ScriptingConfig) (first second : HostOptions) :
    c.apply (first.replacedBy second).overrides =
      (c.apply first.overrides).apply second.overrides := by
  obtain ⟨_, _, role, players, hotReload⟩ := second
  cases role <;> cases players <;> cases hotReload <;> rfl

/-- Words behind a command line that is accepted are refused for what is wrong with them alone, or
accepted and replace the options whose flags they give. A configuration gets the same from all the
words as from the earlier and then the later ones. -/
theorem later_flags_replace (program : String) {a : List String} {first : HostOptions}
    (accepted : parse (program :: a) = .ok first) (b : List String) (c : ScriptingConfig) :
    (∀ e, parse (program :: b) = .error e → parse (program :: (a ++ b)) = .error e) ∧
      (∀ second, parse (program :: b) = .ok second → ∃ both,
        parse (program :: (a ++ b)) = .ok both ∧ Continued b first second both ∧
          c.apply both.overrides = (c.apply first.overrides).apply second.overrides ∧
          SetBy (a ++ b) both ∧ Taken (a ++ b) both c (c.apply both.overrides)) ∧
      SetBy a first ∧ Taken a first c (c.apply first.overrides) := by
  have joined := parse_append program accepted b
  have set := setBy_of_parse accepted
  refine ⟨?refused, ?accepted, set, set.taken c⟩
  case refused =>
    intro e refused
    rw [joined, refused]
    rfl
  case accepted =>
    intro second more
    rw [more] at joined
    have all := setBy_of_parse joined
    exact ⟨_, joined, (setBy_of_parse more).continued first, apply_replacedBy c first second, all,
      all.taken c⟩

/-- More players than there are slots, and a role that the later words take back. -/
theorem crowd_made_servers : ∃ both,
    parse ["host", "--players", "300", "--role", "client", "--role", "server"] = .ok both ∧
      both = ⟨none, none, some .server, some 300, none⟩ ∧
      (ScriptingConfig.default.apply both.overrides).maxPlayers = 256 := by
  have accepted : parse ["host", "--players", "300", "--role", "client"] =
      .ok ⟨none, none, some .client, some 300, none⟩ := rfl
  have more : parse ["host", "--role", "server"] =
      .ok ⟨none, none, some .server, none, none⟩ := rfl
  obtain ⟨-, joined, -⟩ := later_flags_replace "host" accepted ["--role", "server"] .default
  obtain ⟨both, parsed, continued, -, -, taken⟩ := joined _ more
  have players : both.players = some 300 := continued.players
  have cut := taken.players
  rw [players] at cut
  refine ⟨both, parsed, ?_, Option.some.inj cut⟩
  obtain ⟨config, frames, role, _, hotReload⟩ := both
  cases continued
  simp_all [gives, lastValue?]

end HostOptions

end ModHost
