import ModHost.Proofs.Attribution
import ModHost.Proofs.OutputTexts
import ModHost.Proofs.SortedEntries

set_option autoImplicit false

/-!
# Outputs of runs

The documents of script values, and what the output of a run of a fixture is made of. A run
reads nothing but the scripts that are enabled, so over files with the same scripts it gives
the same output.
-/

namespace ModHost

open Script (Value)

namespace Json

theorem canonical_ofEntries {entries : List (String × Json)}
    (each : ∀ e ∈ entries, Canonical e.2) : Canonical (ofEntries entries) := by
  have step (made rest : List (String × Json)) (sorted : made.Pairwise fun d e => d.1 < e.1)
      (sound : ∀ e ∈ made, Canonical e.2) (more : ∀ e ∈ rest, Canonical e.2) :
      Canonical (.obj (rest.foldl (fun m e => insert e.1 e.2 m) made)) := by
    induction rest generalizing made with
    | nil => exact .obj made sorted sound
    | cons e rest ih =>
      have placed := insert_eq e.1 e.2 made
      refine ih (insert e.1 e.2 made) (placed ▸ sorted_insertEntry e.1 e.2 sorted) (fun d hd => ?_)
        fun d hd => more d (List.mem_cons_of_mem e hd)
      rcases mem_insertEntry (placed ▸ hd) with rfl | old
      · exact more e List.mem_cons_self
      · exact sound d old
  exact step [] entries .nil (fun e none => absurd none List.not_mem_nil) each

end Json

namespace Script.Value

mutual

/-- Values have documents that can be read back but for floats and depth. -/
theorem canonical_json {v : Value} {j : Json} (made : json? v = some j) : j.Canonical := by
  cases v with
  | unit => cases made; exact .null
  | bool b => cases made; exact .bool b
  | int n =>
    cases made
    exact .int _ n.le_toInt (Int.lt_trans n.toInt_lt (by decide))
  | float x =>
    cases made
    split
    · next finite => exact .float x finite
    · exact .null
  | char c => cases made; exact .str _
  | str s => cases made; exact .str s
  | array items =>
    rw [json?] at made
    obtain ⟨js, each, rfl⟩ := Option.map_eq_some_iff.1 made
    exact .arr js (canonical_jsonItems each)
  | map entries =>
    rw [json?] at made
    obtain ⟨js, each, rfl⟩ := Option.map_eq_some_iff.1 made
    exact Json.canonical_ofEntries (canonical_jsonEntries each)
  | _ => cases made

theorem canonical_jsonItems {items : List Value} {js : List Json}
    (made : jsonItems items = some js) : ∀ j ∈ js, j.Canonical := by
  cases items with
  | nil =>
    cases made
    exact fun j none => absurd none List.not_mem_nil
  | cons v rest =>
    rw [jsonItems] at made
    obtain ⟨i, first, made⟩ := Option.bind_eq_some_iff.1 made
    obtain ⟨is, later, same⟩ := Option.bind_eq_some_iff.1 made
    cases same
    exact List.forall_mem_cons.2 ⟨canonical_json first, canonical_jsonItems later⟩

theorem canonical_jsonEntries {entries : List (String × Value)} {js : List (String × Json)}
    (made : jsonEntries entries = some js) : ∀ e ∈ js, e.2.Canonical := by
  cases entries with
  | nil =>
    cases made
    exact fun j none => absurd none List.not_mem_nil
  | cons e rest =>
    obtain ⟨key, v⟩ := e
    rw [jsonEntries] at made
    obtain ⟨i, first, made⟩ := Option.bind_eq_some_iff.1 made
    obtain ⟨is, later, same⟩ := Option.bind_eq_some_iff.1 made
    cases same
    exact List.forall_mem_cons.2 ⟨canonical_json first, canonical_jsonEntries later⟩

end

end Script.Value

/-- The counts of an output are words of 64 bits, as its slots are. -/
structure HarnessOutput.Counted (o : HarnessOutput) : Prop where
  frames : o.frames < UInt64.size
  hooksInvoked : ∀ r ∈ o.results, r.hooksInvoked < UInt64.size
  players : o.finalPlayers.length ≤ UInt64.size

theorem PlayerSummary.fits_ofState {slot : Nat} (p : PlayerState) (word : slot < UInt64.size) :
    (PlayerSummary.ofState slot p).Fits where
  slot := word
  health := ⟨p.health.le_toInt, p.health.toInt_lt⟩
  coins := ⟨p.coins.le_toInt, p.coins.toInt_lt⟩
  lives := ⟨p.lives.le_toInt, p.lives.toInt_lt⟩
  stars := ⟨p.stars.le_toInt, p.stars.toInt_lt⟩
  action := p.action.toNat_lt

namespace Fixture

theorem stepFrames_frame (engine : Engine) (scripts : List (String × Path)) (count first : Nat)
    (h : ScriptHost) :
    ∀ r ∈ (stepFrames engine scripts count first h).1, r.frame < first + count := by
  induction count generalizing first h with
  | zero => exact fun r none => absurd none List.not_mem_nil
  | succ count ih =>
    rw [stepFrames_succ]
    refine List.forall_mem_cons.2 ⟨Nat.lt_add_of_pos_right (Nat.succ_pos count), fun r hr => ?_⟩
    have later := ih (first + 1) _ r hr
    omega

theorem fits_outputOf {engine : Engine} {f : Fixture} {started : InitReport × ScriptHost}
    (counted : (f.outputOf engine started).Counted) : (f.outputOf engine started).Fits where
  frames := counted.frames
  results r hr := by
    refine ⟨?_, counted.hooksInvoked r hr⟩
    have frame := stepFrames_frame engine f.scripts f.frames 0 (beforeFrames started) r hr
    have frames := counted.frames
    change f.frames < UInt64.size at frames
    omega
  players p hp := by
    have length := counted.players
    simp only [outputOf, List.length_map, List.length_zipIdx] at length
    obtain ⟨⟨player, slot⟩, mem, rfl⟩ := List.mem_map.1 hp
    refine PlayerSummary.fits_ofState player ?_
    have bound := (List.mem_zipIdx mem).2.1
    omega
  globals g hg j value := by
    obtain ⟨probed, -, rfl⟩ := List.mem_map.1 hg
    obtain ⟨v, -, made⟩ := Option.bind_eq_some_iff.1 value
    exact Script.Value.canonical_json made

end Fixture

theorem Files.readText_congr {files files' : Files} {path : Path}
    (same : files'.lookup path = files.lookup path) :
    files'.readText path = files.readText path := by
  rw [Files.readText, Files.readText, Files.readBytes, Files.readBytes, same]

theorem Files.stamp?_congr {files files' : Files} {path : Path}
    (same : files'.lookup path = files.lookup path) :
    files'.stamp? path = files.stamp? path := by
  rw [Files.stamp?, Files.stamp?, same]

theorem Sandbox.load_congr {engine : Engine} {files files' : Files} {path : Path}
    (same : files'.lookup path = files.lookup path) (sb : Sandbox) (s : Scene) :
    sb.load engine files' s path = sb.load engine files s path := by
  rw [load, load, compileFile, compileFile, Files.readText_congr same]

namespace ScriptHost

theorem loadEntries_congr {engine : Engine} {files files' : Files} {entries : List ModEntry}
    (same : ∀ e ∈ entries, e.enabled = true → files'.lookup e.path = files.lookup e.path)
    (report : InitReport) (h : ScriptHost) (sb : Sandbox) (s : Scene) :
    loadEntries engine files' entries report h sb s =
      loadEntries engine files entries report h sb s := by
  induction entries generalizing report h sb s with
  | nil => rfl
  | cons e rest ih =>
    have later (report : InitReport) (h : ScriptHost) (sb : Sandbox) (s : Scene) :=
      ih (fun d hd => same d (List.mem_cons_of_mem e hd)) report h sb s
    cases enabled : e.enabled with
    | false =>
      rw [loadEntries_disabled engine files' e rest report h sb s enabled,
        loadEntries_disabled engine files e rest report h sb s enabled, later]
    | true =>
      have lookup := same e List.mem_cons_self enabled
      rw [loadEntries, loadEntries, Files.stamp?_congr lookup]
      simp only [Sandbox.load_congr lookup, later]

theorem start_congr {engine : Engine} {files files' : Files} {h : ScriptHost}
    (same : ∀ e ∈ h.config.activeMods, e.enabled = true →
      files'.lookup e.path = files.lookup e.path) :
    h.start engine files' = h.start engine files := by
  have entries : h.readied.config.activeMods = h.config.activeMods := by rw [readied_config]
  have opened (session : Session) (events : List LogEvent) :
      openSession engine files' session (h.readied.say events) =
        openSession engine files session (h.readied.say events) := by
    unfold openSession
    dsimp only
    rw [loadEntries_congr]
    exact entries ▸ same
  unfold start
  dsimp only
  split
  · rfl
  · exact opened _ _

end ScriptHost

theorem Fixture.run_congr {engine : Engine} {files files' : Files} {f : Fixture}
    (same : ∀ e ∈ f.mods, e.enabled = true →
      files'.lookup (f.resolve e.path) = files.lookup (f.resolve e.path)) :
    f.run engine files' = f.run engine files := by
  have active : ∀ e ∈ f.config.activeMods, e.enabled = true →
      files'.lookup e.path = files.lookup e.path := by
    intro e he enabled
    obtain ⟨d, hd, rfl⟩ := mem_activeMods.1 he
    exact same d hd enabled
  have started (players : PlayerTable) :
      ({ ScriptHost.ofConfig f.config with players := players }).start engine files' =
        ({ ScriptHost.ofConfig f.config with players := players }).start engine files :=
    ScriptHost.start_congr active
  unfold run
  dsimp only
  split
  · rfl
  · rw [started]

end ModHost
