import ModHost.Fixture.Output
import ModHost.Proofs.JsonRecords

set_option autoImplicit false

/-!
# Outputs that were written

What the text of an output is read as. All of it is read back but for what probes found: the
document of a value may be lost on floats and depth, and a null is taken for nothing.
-/

namespace ModHost

open JsonReader JsonShape

variable {depth : Nat}

theorem reads_unsigned (type : String) {n size : Nat} (k : Nat) (fits : n < size)
    (small : size ≤ UInt64.size) :
    Reads (JsonShape.integer type 0 (size - 1)).read depth
      (textBytes (Json.prettyAt k (.count n))) (some (.count n)) := by
  have low : 0 ≤ (n : Int) := Int.natCast_nonneg n
  have high : (n : Int) < size := Int.ofNat_lt.2 fits
  exact reads_integer type low (Int.le_sub_one_of_lt high) (Int.le_trans (by decide) low)
    (Int.lt_of_lt_of_le high (Int.ofNat_le.2 small))

theorem reads_count {n : Nat} (k : Nat) (fits : n < UInt64.size) :
    Reads JsonShape.count.read depth (textBytes (Json.prettyAt k (.count n)))
      (some (.count n)) :=
  reads_unsigned "usize" k fits (Nat.le_refl _)

theorem reads_texts (lines : List String) (k : Nat) (deep : 1 < depth) :
    Reads (JsonShape.list .string).read depth (textBytes (Json.prettyAt k (.texts lines)))
      (some (.texts lines)) :=
  reads_items k deep fun line _ => reads_text "a string" line

theorem elements_texts (lines : List String) :
    (Json.texts lines).elements.map Json.text = lines := by
  rw [Json.texts, Json.elements, List.map_map]
  exact List.map_id lines

namespace FailureSummary

/-- What a failure is read as: the script is null if there is none. -/
def readBack (f : FailureSummary) : Json :=
  .obj [("kind", .str f.kind), ("script", (f.script.map Json.str).getD .null)]

theorem reads (f : FailureSummary) (k : Nat) (deep : 1 < depth) :
    Reads shape.read depth (textBytes (Json.prettyAt k f.toJson)) (some f.readBack) := by
  have distinct : ["kind", "script"].Nodup := by decide
  obtain ⟨kind, script⟩ := f
  cases script with
  | none =>
    exact reads_fields deep (.written (reads_text _ kind) (.omitted .nil)) distinct rfl
  | some s =>
    have given : Reads (JsonShape.optional .string).read (depth - 1)
        (textBytes (Json.stringText s)) (some (.str s)) :=
      reads_optional (reads_text "a string" s) (textBytes_stringText s) (by decide)
    exact reads_fields deep (.written (reads_text _ kind) (.written given .nil)) distinct rfl

theorem ofJson_readBack (f : FailureSummary) : ofJson f.readBack = f := by
  obtain ⟨kind, script⟩ := f
  cases script with
  | none => rfl
  | some s => rfl

end FailureSummary

namespace PlayerSummary

/-- The numbers are of the sizes that a player's record has. -/
structure Fits (p : PlayerSummary) : Prop where
  slot : p.slot < UInt64.size
  health : -signedEnd 16 ≤ p.health ∧ p.health < signedEnd 16
  coins : -signedEnd 16 ≤ p.coins ∧ p.coins < signedEnd 16
  lives : -signedEnd 8 ≤ p.lives ∧ p.lives < signedEnd 8
  stars : -signedEnd 16 ≤ p.stars ∧ p.stars < signedEnd 16
  action : p.action < UInt32.size

theorem reads_signed {n : Int} (bits k : Nat) (small : signedEnd bits ≤ signedEnd 64)
    (range : -signedEnd bits ≤ n ∧ n < signedEnd bits) :
    Reads (JsonShape.signed bits).read depth (textBytes (Json.prettyAt k (.int n)))
      (some (.int n)) := by
  obtain ⟨low, high⟩ := range
  have least : Int64.minValue.toInt = -signedEnd 64 := by decide
  have word : signedEnd 64 ≤ UInt64.size := by decide
  exact reads_integer _ low (Int.le_sub_one_of_lt high) (by omega) (by omega)

theorem reads {p : PlayerSummary} (fits : p.Fits) (k : Nat) (deep : 1 < depth) :
    Reads shape.read depth (textBytes (Json.prettyAt k p.toJson)) (some p.toJson) := by
  have distinct : ["slot", "health", "coins", "lives", "stars", "action"].Nodup := by decide
  exact reads_fields deep
    (.written (reads_count _ fits.slot) <|
      .written (reads_signed 16 _ (by decide) fits.health) <|
      .written (reads_signed 16 _ (by decide) fits.coins) <|
      .written (reads_signed 8 _ (by decide) fits.lives) <|
      .written (reads_signed 16 _ (by decide) fits.stars) <|
      .written (reads_unsigned "u32" _ fits.action (by decide)) .nil) distinct rfl

theorem ofJson_toJson (p : PlayerSummary) : ofJson p.toJson = p := by
  obtain ⟨slot, health, coins, lives, stars, action⟩ := p
  rfl

end PlayerSummary

namespace FrameResult

structure Fits (r : FrameResult) : Prop where
  frame : r.frame < UInt64.size
  hooksInvoked : r.hooksInvoked < UInt64.size

def readBack (r : FrameResult) : Json :=
  .obj [("frame", .count r.frame), ("hooks_invoked", .count r.hooksInvoked),
    ("logs", .texts r.logs), ("failures", .arr (r.failures.map FailureSummary.readBack))]

theorem reads {r : FrameResult} (fits : r.Fits) (k : Nat) (deep : 3 < depth) :
    Reads shape.read depth (textBytes (Json.prettyAt k r.toJson)) (some r.readBack) := by
  have distinct : ["frame", "hooks_invoked", "logs", "failures"].Nodup := by decide
  have failures : Reads (JsonShape.list FailureSummary.shape).read (depth - 1)
      (textBytes (Json.prettyAt (k + 1) (.arr (r.failures.map FailureSummary.toJson)))) _ :=
    reads_items (k + 1) (by omega) fun f _ => f.reads (k + 2) (by omega)
  exact reads_fields (by omega)
    (.written (reads_count _ fits.frame) <|
      .written (reads_count _ fits.hooksInvoked) <|
      .written (reads_texts _ _ (by omega)) <|
      .written failures .nil) distinct rfl

theorem ofJson_failures (fs : List FailureSummary) :
    (Json.arr (fs.map FailureSummary.readBack)).elements.map FailureSummary.ofJson = fs := by
  rw [Json.elements, List.map_map]
  exact (List.map_congr_left fun f _ => f.ofJson_readBack).trans (List.map_id fs)

theorem ofJson_readBack (r : FrameResult) : ofJson r.readBack = r := by
  have logs := elements_texts r.logs
  have failures := ofJson_failures r.failures
  obtain ⟨frame, hooks, lines, fs⟩ := r
  change FrameResult.mk frame hooks ((Json.texts lines).elements.map Json.text)
    ((Json.arr (fs.map FailureSummary.readBack)).elements.map FailureSummary.ofJson) = _
  rw [logs, failures]

end FrameResult

namespace GlobalSummary

/-- What a probe's finding is read as, its value where so many containers may be opened, and
one. -/
def readBack (depth : Nat) (g : GlobalSummary) : Option Json :=
  ((g.value.getD .null).reread depth).map fun j =>
    .obj [("script", .str g.script), ("name", .str g.name), ("value", j)]

/-- Whether it is read back: a null is not, since it is taken for nothing. -/
def survives (depth : Nat) (g : GlobalSummary) : Bool :=
  match g.value with
  | none => true
  | some .null => false
  | some j => j.survives depth

theorem starts_other {j : Json} (canonical : j.Canonical) (present : j ≠ .null) (k : Nat) :
    ∃ b l, textBytes (j.prettyAt k) = b :: l ∧ b ≠ code 'n' := by
  cases canonical with
  | null => exact absurd rfl present
  | bool b =>
    cases b with
    | true => exact ⟨116, _, textBytes_literal (s := "true") (by decide), by decide⟩
    | false => exact ⟨102, _, textBytes_literal (s := "false") (by decide), by decide⟩
  | int n =>
    obtain ⟨b, l, text, starts⟩ := (numberText_int n).starts
    exact ⟨b, l, text, (startsNumber_other starts).2.2.1⟩
  | float x finite =>
    have text : Json.prettyAt k (.float x) = FloatStyle.json.render x := if_pos finite
    rw [text]
    rcases render_cases x with number | word | word | word
    · obtain ⟨b, l, text, starts⟩ := number.starts
      exact ⟨b, l, text, (startsNumber_other starts).2.2.1⟩
    · rw [word]
      exact ⟨78, _, textBytes_literal (s := "NaN") (by decide), by decide⟩
    · rw [word]
      exact ⟨105, _, textBytes_literal (s := "inf") (by decide), by decide⟩
    · rw [word]
      exact ⟨45, _, textBytes_literal (s := "-inf") (by decide), by decide⟩
  | str s => exact ⟨34, _, textBytes_stringText s, by decide⟩
  | arr items =>
    obtain ⟨last, -, -, text⟩ := Json.textBytes_arr k items
    exact ⟨91, _, text, by decide⟩
  | obj entries =>
    obtain ⟨last, -, -, text⟩ := Json.textBytes_obj k entries
    exact ⟨123, _, text, by decide⟩

theorem reads {g : GlobalSummary} (canonical : ∀ j, g.value = some j → j.Canonical) (k : Nat)
    (deep : 1 < depth) (within : depth ≤ depthLimit) :
    Reads shape.read depth (textBytes (Json.prettyAt k g.toJson)) (g.readBack (depth - 1)) := by
  have distinct : ["script", "name", "value"].Nodup := by decide
  have value : Reads (JsonShape.optional .any).read (depth - 1)
      (textBytes (Json.prettyAt (k + 1) (g.value.getD .null)))
      ((g.value.getD .null).reread (depth - 1)) := by
    cases given : g.value with
    | none => exact reads_optional_null
    | some j =>
      have sound := canonical j given
      by_cases null : j = .null
      · subst null
        exact reads_optional_null
      · obtain ⟨b, l, text, other⟩ := starts_other sound null (k + 1)
        exact reads_optional (Json.reads_value sound (k + 1) (by omega)) text other
  refine reads_fields deep
    (.written (reads_text _ g.script) <|
      .written (reads_text _ g.name) <|
      .written value .nil) distinct ?_
  rw [readBack]
  cases (g.value.getD .null).reread (depth - 1) with
  | none => rfl
  | some j => rfl

theorem same_null {j : Json} (present : j ≠ .null) : Json.same .null j = false := by
  cases j with
  | null => exact absurd rfl present
  | _ => rfl

theorem same_found (script name : String) {i j : Json} (present : j ≠ .null) :
    (ofJson (.obj [("script", .str script), ("name", .str name), ("value", i)])).same
      ⟨script, name, some j⟩ = i.same j := by
  have found : ofJson (.obj [("script", .str script), ("name", .str name), ("value", i)]) =
      ⟨script, name, i.present?⟩ := rfl
  rw [found, same, decide_eq_true rfl, decide_eq_true rfl, Bool.true_and, Bool.true_and]
  cases i with
  | null => exact (same_null present).symm
  | _ => rfl

theorem any_same {g : GlobalSummary} (canonical : ∀ j, g.value = some j → j.Canonical)
    (depth : Nat) :
    (g.readBack depth).any (fun back => (ofJson back).same g) = g.survives depth := by
  obtain ⟨script, name, value⟩ := g
  cases value with
  | none =>
    change ((ofJson (.obj [("script", .str script), ("name", .str name), ("value", .null)])).same
      ⟨script, name, none⟩) = true
    simp [same, ofJson, Json.field, Json.get?, Json.lookup, Json.text, Json.present?]
  | some j =>
    by_cases null : j = .null
    · subst null
      change ((ofJson (.obj [("script", .str script), ("name", .str name), ("value", .null)])).same
        ⟨script, name, some .null⟩) = false
      simp [same, ofJson, Json.field, Json.get?, Json.lookup, Json.present?]
    · have kept : survives depth ⟨script, name, some j⟩ = j.survives depth := by
        cases j with
        | null => exact absurd rfl null
        | _ => rfl
      rw [kept, ← Json.any_same (canonical j rfl) depth, readBack, Option.getD_some, Option.any_map]
      congr 1
      funext i
      exact same_found script name null

end GlobalSummary

namespace HarnessOutput

/-- Counts fit 64 bits, as they do in a run, and values are documents as runs make them. -/
structure Fits (o : HarnessOutput) : Prop where
  frames : o.frames < UInt64.size
  results : ∀ r ∈ o.results, r.Fits
  players : ∀ p ∈ o.finalPlayers, p.Fits
  globals : ∀ g ∈ o.globals, ∀ j, g.value = some j → j.Canonical

/-- Containers that may be opened in the value of a global, and one: the output, the list of
globals and the global itself are open. -/
def valueDepth : Nat := depthLimit - 3

def readBack (o : HarnessOutput) : Option Json :=
  (o.globals.mapM (GlobalSummary.readBack valueDepth)).map fun globals =>
    .obj [("role", o.role.toJson), ("frames", .count o.frames), ("loaded", .texts o.loaded),
      ("skipped", .texts o.skipped), ("init_logs", .texts o.initLogs),
      ("init_failures", .arr (o.initFailures.map FailureSummary.readBack)),
      ("results", .arr (o.results.map FrameResult.readBack)),
      ("final_players", .arr (o.finalPlayers.map PlayerSummary.toJson)),
      ("globals", .arr globals)]

theorem reads {o : HarnessOutput} (fits : o.Fits) :
    Reads shape.read depthLimit (textBytes o.text) o.readBack := by
  have distinct : ["role", "frames", "loaded", "skipped", "init_logs", "init_failures", "results",
      "final_players", "globals"].Nodup := by decide
  have role : Reads HostRole.shape.read (depthLimit - 1)
      (textBytes (Json.prettyAt 1 o.role.toJson)) (some o.role.toJson) := by
    cases o.role with
    | server => exact reads_choice (by decide)
    | client => exact reads_choice (by decide)
  have failures : Reads (JsonShape.list FailureSummary.shape).read (depthLimit - 1)
      (textBytes (Json.prettyAt 1 (.arr (o.initFailures.map FailureSummary.toJson)))) _ :=
    reads_items 1 (by decide) fun f _ => f.reads 2 (by decide)
  have results : Reads (JsonShape.list FrameResult.shape).read (depthLimit - 1)
      (textBytes (Json.prettyAt 1 (.arr (o.results.map FrameResult.toJson)))) _ :=
    reads_items 1 (by decide) fun r hr => FrameResult.reads (fits.results r hr) 2 (by decide)
  have players : Reads (JsonShape.list PlayerSummary.shape).read (depthLimit - 1)
      (textBytes (Json.prettyAt 1 (.arr (o.finalPlayers.map PlayerSummary.toJson)))) _ :=
    reads_items 1 (by decide) fun p hp => PlayerSummary.reads (fits.players p hp) 2 (by decide)
  have globals : Reads (JsonShape.list GlobalSummary.shape).read (depthLimit - 1)
      (textBytes (Json.prettyAt 1 (.arr (o.globals.map GlobalSummary.toJson))))
      ((o.globals.mapM (GlobalSummary.readBack valueDepth)).map .arr) :=
    reads_list 1 fun _ g hg => GlobalSummary.reads (fits.globals g hg) 2 (by decide) (by decide)
  refine reads_fields (by decide)
    (.written role <|
      .written (reads_count _ fits.frames) <|
      .written (reads_texts _ _ (by decide)) <|
      .written (reads_texts _ _ (by decide)) <|
      .written (reads_texts _ _ (by decide)) <|
      .written failures <|
      .written results <|
      .written players <|
      .written globals .nil) distinct ?_
  rw [readBack]
  cases o.globals.mapM (GlobalSummary.readBack valueDepth) with
  | none => rfl
  | some back => rfl

theorem parse_text {o : HarnessOutput} (fits : o.Fits) {tail : List UInt8}
    (blank : Blanks tail) (stops : Stops tail) :
    (parse (textBytes o.text ++ tail)).toOption = o.readBack.map ofJson := by
  have whole := run_of_reads true (reads fits) blank stops
  rw [← whole, parse, JsonShape.readText]
  cases JsonReader.run _ true (textBytes o.text ++ tail) with
  | ok j => rfl
  | error e => rfl

/-- Whether an output is read back from its text. -/
def survives (o : HarnessOutput) : Bool := o.globals.all (GlobalSummary.survives valueDepth)

theorem any_sameGlobals {globals : List GlobalSummary} {depth : Nat}
    (canonical : ∀ g ∈ globals, ∀ j, g.value = some j → j.Canonical) :
    ((globals.mapM (GlobalSummary.readBack depth)).any fun back =>
      decide (back.length = globals.length) &&
        (List.zipWith GlobalSummary.same (back.map GlobalSummary.ofJson) globals).all id) =
      globals.all (GlobalSummary.survives depth) := by
  induction globals with
  | nil => rfl
  | cons g rest ih =>
    have head := GlobalSummary.any_same (canonical g List.mem_cons_self) depth
    have later := ih fun h hh => canonical h (List.mem_cons_of_mem g hh)
    rw [List.mapM_cons, List.all_cons, ← head, ← later]
    cases g.readBack depth with
    | none => rfl
    | some j =>
      cases rest.mapM (GlobalSummary.readBack depth) with
      | none => simp
      | some back => simp [Bool.and_left_comm]

theorem ofJson_fields (o : HarnessOutput) (globals : List Json) :
    ofJson (.obj [("role", o.role.toJson), ("frames", .count o.frames),
      ("loaded", .texts o.loaded), ("skipped", .texts o.skipped), ("init_logs", .texts o.initLogs),
      ("init_failures", .arr (o.initFailures.map FailureSummary.readBack)),
      ("results", .arr (o.results.map FrameResult.readBack)),
      ("final_players", .arr (o.finalPlayers.map PlayerSummary.toJson)),
      ("globals", .arr globals)]) =
      { o with globals := globals.map GlobalSummary.ofJson } := by
  have role : HostRole.ofJson o.role.toJson = o.role := by cases o.role <;> rfl
  have results : (o.results.map FrameResult.readBack).map FrameResult.ofJson = o.results := by
    rw [List.map_map]
    exact (List.map_congr_left fun r _ => r.ofJson_readBack).trans (List.map_id _)
  have players : (o.finalPlayers.map PlayerSummary.toJson).map PlayerSummary.ofJson =
      o.finalPlayers := by
    rw [List.map_map]
    exact (List.map_congr_left fun p _ => p.ofJson_toJson).trans (List.map_id _)
  change HarnessOutput.mk (HostRole.ofJson o.role.toJson) o.frames
    ((Json.texts o.loaded).elements.map Json.text) ((Json.texts o.skipped).elements.map Json.text)
    ((Json.texts o.initLogs).elements.map Json.text)
    ((Json.arr (o.initFailures.map FailureSummary.readBack)).elements.map FailureSummary.ofJson)
    ((o.results.map FrameResult.readBack).map FrameResult.ofJson)
    ((o.finalPlayers.map PlayerSummary.toJson).map PlayerSummary.ofJson)
    (globals.map GlobalSummary.ofJson) = _
  rw [role, results, players, elements_texts, elements_texts, elements_texts,
    FrameResult.ofJson_failures]

/-- An output is read back as an equal one just when each finding is. -/
theorem any_same {o : HarnessOutput} (fits : o.Fits) :
    (o.readBack.map ofJson).any (fun back => back.same o) = o.survives := by
  rw [survives, ← any_sameGlobals fits.globals, readBack, Option.map_map, Option.any_map]
  congr 1
  funext globals
  change (ofJson _).same o = _
  rw [ofJson_fields]
  simp [same]

end HarnessOutput

end ModHost
