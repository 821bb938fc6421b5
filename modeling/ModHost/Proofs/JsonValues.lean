import ModHost.Proofs.JsonNumbers

set_option autoImplicit false

/-!
# Documents that were written

The text of a document over several lines, and what it is read as. Where the text is that of a
document whose integers fit 64 bits and whose objects are sorted, only two things keep the reader
from the same document: a float that is not read back exactly, and containers that lie too deep.
-/

namespace ModHost

namespace Json

open JsonReader

theorem textBytes_newline (k : Nat) :
    textBytes (newline k) = 10 :: List.replicate (2 * k) 32 := by
  have line : textBytes "\n" = [10] := textBytes_literal (by decide)
  have blank : ∀ ch ∈ (String.ofList (List.replicate (2 * k) ' ')).toList, ch.toNat < 128 := by
    rw [String.toList_ofList]
    intro ch mem
    rw [List.eq_of_mem_replicate mem]
    decide
  rw [newline, textBytes_append, line, textBytes_codes blank, String.toList_ofList,
    List.map_replicate]
  rfl

theorem blanks_newline (k : Nat) : Blanks (textBytes (newline k)) := by
  rw [textBytes_newline]
  refine List.forall_mem_cons.2 ⟨rfl, fun b mem => ?_⟩
  rw [List.eq_of_mem_replicate mem]
  rfl

theorem newline_head (k : Nat) : (textBytes (newline k)).head? = some 10 := by
  rw [textBytes_newline]
  rfl

theorem textBytes_comma : textBytes "," = [44] := textBytes_literal (by decide)

theorem itemsText_pair {β : Type} (gap : List UInt8) (text : β → List UInt8) (x y : β)
    (rest : List β) :
    itemsText gap text true (x :: y :: rest) =
      gap ++ text x ++ 44 :: itemsText gap text true (y :: rest) := by
  simp [itemsText]

theorem textBytes_prettyItems (k : Nat) (items : List Json) :
    textBytes (prettyItems k items) =
      itemsText (textBytes (newline k)) (fun j => textBytes (prettyAt k j)) true items := by
  induction items with
  | nil => exact textBytes_ofList []
  | cons j rest ih =>
    cases rest with
    | nil =>
      rw [prettyItems, textBytes_append]
      simp [itemsText]
    | cons i rest =>
      rw [prettyItems, textBytes_append, textBytes_append, textBytes_append, ih, textBytes_comma]
      · rw [itemsText_pair]
        simp
      · exact List.cons_ne_nil i rest

theorem textBytes_prettyEntries (k : Nat) (entries : List (String × Json)) :
    textBytes (prettyEntries k entries) =
      membersText (textBytes (newline k)) Prod.fst
        (fun e => 58 :: 32 :: textBytes (prettyAt k e.2)) true entries := by
  have colon : textBytes ": " = [58, 32] := textBytes_literal (by decide)
  unfold membersText
  induction entries with
  | nil => exact textBytes_ofList []
  | cons e rest ih =>
    obtain ⟨key, j⟩ := e
    cases rest with
    | nil =>
      rw [prettyEntries, textBytes_append, textBytes_append, textBytes_append, colon]
      simp [itemsText]
    | cons e rest =>
      rw [prettyEntries, textBytes_append, textBytes_append, textBytes_append, textBytes_append,
        textBytes_append, ih, textBytes_comma, colon]
      · rw [itemsText_pair]
        simp
      · exact List.cons_ne_nil e rest

/-- The text of a list: its items between gaps, and a gap before the end unless it is empty. -/
theorem textBytes_arr (k : Nat) (items : List Json) :
    ∃ last, Blanks last ∧ (items ≠ [] → last.head? = some 10) ∧
      textBytes (prettyAt k (arr items)) =
        91 :: (itemsText (textBytes (newline (k + 1)))
          (fun j => textBytes (prettyAt (k + 1) j)) true items ++ (last ++ [93])) := by
  cases items with
  | nil =>
    have bytes : textBytes "[]" = [91, 93] := textBytes_literal (by decide)
    exact ⟨[], blanks_nil, fun none => absurd rfl none, bytes⟩
  | cons j rest =>
    have opening : textBytes "[" = [91] := textBytes_literal (by decide)
    have ending : textBytes "]" = [93] := textBytes_literal (by decide)
    refine ⟨textBytes (newline k), blanks_newline k, fun _ => newline_head k, ?_⟩
    rw [prettyAt, textBytes_append, textBytes_append, textBytes_append, textBytes_prettyItems,
      opening, ending]
    · simp
    · exact List.cons_ne_nil j rest

theorem textBytes_obj (k : Nat) (entries : List (String × Json)) :
    ∃ last, Blanks last ∧ (entries ≠ [] → last.head? = some 10) ∧
      textBytes (prettyAt k (obj entries)) =
        123 :: (membersText (textBytes (newline (k + 1))) Prod.fst
          (fun e => 58 :: 32 :: textBytes (prettyAt (k + 1) e.2)) true entries ++
            (last ++ [125])) := by
  cases entries with
  | nil =>
    have bytes : textBytes "\x7b\x7d" = [123, 125] := textBytes_literal (by decide)
    exact ⟨[], blanks_nil, fun none => absurd rfl none, bytes⟩
  | cons e rest =>
    have opening : textBytes "\x7b" = [123] := textBytes_literal (by decide)
    have ending : textBytes "\x7d" = [125] := textBytes_literal (by decide)
    refine ⟨textBytes (newline k), blanks_newline k, fun _ => newline_head k, ?_⟩
    rw [prettyAt, textBytes_append, textBytes_append, textBytes_append, textBytes_prettyEntries,
      opening, ending]
    · simp
    · exact List.cons_ne_nil e rest

/-- Documents as runs make them. -/
inductive Canonical : Json → Prop where
  | null : Canonical null
  | bool (b : Bool) : Canonical (bool b)
  | int (n : Int) (low : Int64.minValue.toInt ≤ n) (high : n < UInt64.size) : Canonical (int n)
  | float (x : Float) (finite : x.isFinite = true) : Canonical (float x)
  | str (s : String) : Canonical (str s)
  | arr (items : List Json) (each : ∀ j ∈ items, Canonical j) : Canonical (arr items)
  | obj (entries : List (String × Json)) (sorted : entries.Pairwise fun d e => d.1 < e.1)
      (each : ∀ e ∈ entries, Canonical e.2) : Canonical (obj entries)

mutual

/-- What the text of a document is read as where so many containers may be opened, and one. -/
def reread : Nat → Json → Option Json
  | _, float x => rereadFloat x
  | depth, arr items => if depth ≤ 1 then none else (rereadItems (depth - 1) items).map arr
  | depth, obj entries => if depth ≤ 1 then none else (rereadEntries (depth - 1) entries).map obj
  | _, j => some j

def rereadItems : Nat → List Json → Option (List Json)
  | _, [] => some []
  | depth, j :: rest => do pure ((← reread depth j) :: (← rereadItems depth rest))

def rereadEntries : Nat → List (String × Json) → Option (List (String × Json))
  | _, [] => some []
  | depth, (k, j) :: rest => do pure ((k, ← reread depth j) :: (← rereadEntries depth rest))

end

theorem rereadItems_eq (depth : Nat) (items : List Json) :
    rereadItems depth items = items.mapM (reread depth) := by
  induction items with
  | nil => rfl
  | cons j rest ih => rw [rereadItems, ih, List.mapM_cons]

theorem rereadEntries_eq (depth : Nat) (entries : List (String × Json)) :
    rereadEntries depth entries =
      entries.mapM fun e => (reread depth e.2).map fun j => (e.1, j) := by
  induction entries with
  | nil => rfl
  | cons e rest ih =>
    rw [rereadEntries, ih, List.mapM_cons]
    cases reread depth e.2 with
    | none => rfl
    | some j => rfl

theorem insert_last {key : String} (j : Json) {entries : List (String × Json)}
    (last : ∀ e ∈ entries, e.1 < key) : insert key j entries = entries ++ [(key, j)] := by
  induction entries with
  | nil => rfl
  | cons e rest ih =>
    have below := last e List.mem_cons_self
    have other : key ≠ e.1 := fun same => String.lt_irrefl key (same ▸ below)
    rw [insert, if_neg other, if_neg (String.lt_asymm below),
      ih fun d hd => last d (List.mem_cons_of_mem e hd)]
    rfl

theorem foldlM_insert {out : Json → Option Json} {entries before : List (String × Json)}
    (sorted : entries.Pairwise fun d e => d.1 < e.1)
    (after : ∀ d ∈ before, ∀ e ∈ entries, d.1 < e.1) :
    (entries.foldlM (fun made e => (out e.2).map fun j => insert e.1 j made) before) =
      (entries.mapM fun e => (out e.2).map fun j => (e.1, j)).map (before ++ ·) := by
  induction entries generalizing before with
  | nil =>
    rw [List.mapM_nil]
    exact congrArg some (List.append_nil before).symm
  | cons e rest ih =>
    rw [List.foldlM_cons, List.mapM_cons]
    cases made : out e.2 with
    | none => rfl
    | some j =>
      obtain ⟨least, sorted⟩ := List.pairwise_cons.1 sorted
      have inserted : insert e.1 j before = before ++ [(e.1, j)] :=
        insert_last j fun d hd => after d hd e List.mem_cons_self
      have later : ∀ d ∈ before ++ [(e.1, j)], ∀ f ∈ rest, d.1 < f.1 := by
        intro d hd f hf
        rcases List.mem_append.1 hd with hd | hd
        · exact after d hd f (List.mem_cons_of_mem e hf)
        · rw [List.mem_singleton.1 hd]
          exact least f hf
      change List.foldlM _ (insert e.1 j before) rest = _
      rw [inserted, ih sorted later]
      cases rest.mapM fun e => (out e.2).map fun j => (e.1, j) with
      | none => rfl
      | some made => exact congrArg some (List.append_assoc _ _ _)

theorem reads_bool {depth p : Nat} (k : Nat) (b : Bool) :
    Reads (valueUpTo (p + 1)) depth (textBytes (prettyAt k (bool b))) (some (bool b)) := by
  cases b with
  | true =>
    have bytes : textBytes "true" = 116 :: "rue".toList.map code := textBytes_literal (by decide)
    refine reads_valueStart bytes (by decide) (by decide) fun env c tail _ _ rest _ => ?_
    rw [prettyAt, if_pos rfl, bytes] at rest
    exact Goes.bind_goes (goes_word rest) fun c' left => ⟨c', rfl, left⟩
  | false =>
    have bytes : textBytes "false" = 102 :: "alse".toList.map code :=
      textBytes_literal (by decide)
    refine reads_valueStart bytes (by decide) (by decide) fun env c tail _ _ rest _ => ?_
    rw [prettyAt, if_neg Bool.false_ne_true, bytes] at rest
    exact Goes.bind_goes (goes_word rest) fun c' left => ⟨c', rfl, left⟩

theorem reads_int {depth p : Nat} {n : Int} (low : Int64.minValue.toInt ≤ n)
    (high : n < UInt64.size) :
    Reads (valueUpTo (p + 1)) depth (textBytes (toString n)) (some (int n)) := by
  obtain ⟨b, l, text, starts⟩ := (numberText_int n).starts
  obtain ⟨ink, bracket, null, true_, false_⟩ := startsNumber_other starts
  refine reads_valueStart text ink bracket fun env c tail _ stops rest enough => ?_
  rw [if_neg null, if_neg true_, if_neg false_, if_pos starts]
  exact goes_int low high stops rest enough

theorem reads_str {depth p : Nat} (s : String) :
    Reads (valueUpTo (p + 1)) depth (textBytes (stringText s)) (some (str s)) := by
  refine reads_valueStart (textBytes_stringText s) (by decide) (by decide)
    fun env c tail _ _ rest enough => ?_
  exact Goes.bind_goes (goes_string rest enough) fun c' left => ⟨c', rfl, left⟩

theorem reads_arr {depth p : Nat} (k : Nat) {items : List Json} {out : Json → Option Json}
    (each : 1 < depth → ∀ j ∈ items,
      Reads (valueUpTo p) (depth - 1) (textBytes (prettyAt (k + 1) j)) (out j)) :
    Reads (valueUpTo (p + 1)) depth (textBytes (prettyAt k (arr items)))
      (if depth ≤ 1 then none else (items.mapM out).map arr) := by
  obtain ⟨last, blankLast, breaks, text⟩ := textBytes_arr k items
  refine reads_valueStart text (by decide) (by decide) fun env c tail deep _ rest enough => ?_
  subst deep
  rw [text, List.cons_append, List.append_assoc, List.append_assoc] at rest
  have settles := (settles_list (blanks_newline (k + 1)) blankLast breaks each rest enough).map arr
  rw [apply_ite (Option.map arr)] at settles
  exact settles.outcome

theorem reads_obj {depth p : Nat} (k : Nat) {entries : List (String × Json)}
    {out : Json → Option Json} (sorted : entries.Pairwise fun d e => d.1 < e.1)
    (each : 1 < depth → ∀ e ∈ entries,
      Reads (valueUpTo p) (depth - 1) (textBytes (prettyAt (k + 1) e.2)) (out e.2)) :
    Reads (valueUpTo (p + 1)) depth (textBytes (prettyAt k (obj entries)))
      (if depth ≤ 1 then none
      else (entries.mapM fun e => (out e.2).map fun j => (e.1, j)).map obj) := by
  obtain ⟨last, blankLast, breaks, text⟩ := textBytes_obj k entries
  refine reads_valueStart text (by decide) (by decide) fun env c tail deep _ rest enough => ?_
  subst deep
  rw [text, List.cons_append, List.append_assoc, List.append_assoc] at rest
  let member (made : List (String × Json)) (key : String) :
      JsonReader (List (String × Json)) := do
    colon
    pure (insert key (← valueUpTo p) made)
  let step (made : List (String × Json)) (e : String × Json) : Option (List (String × Json)) :=
    (out e.2).map fun j => insert e.1 j made
  have reads : 1 < env.depth → ∀ e ∈ entries, ∀ made, Reads (member made e.1) (env.depth - 1)
      (58 :: 32 :: textBytes (prettyAt (k + 1) e.2)) (step made e) :=
    fun deep e he made => reads_colon ((each deep e he).map (insert e.1 · made))
  have inOrder : entries.foldlM step [] =
      entries.mapM fun e => (out e.2).map fun j => (e.1, j) := by
    refine (foldlM_insert sorted fun _ none => absurd none List.not_mem_nil).trans ?_
    exact Option.map_id'
  have settles := (settles_object [] (blanks_newline (k + 1)) blankLast breaks reads rest
    enough).map obj
  rw [apply_ite (Option.map obj), inOrder] at settles
  exact settles.outcome

/-- A document is read from its text as far as floats and depth let it. -/
theorem reads_value {j : Json} (canonical : Canonical j) {depth p : Nat} (k : Nat)
    (within : depth < p) :
    Reads (valueUpTo p) depth (textBytes (prettyAt k j)) (reread depth j) := by
  induction canonical generalizing depth p k with
  | null =>
    obtain ⟨p, rfl⟩ := Nat.exists_eq_add_one.2 (Nat.zero_lt_of_lt within)
    exact reads_null
  | bool b =>
    obtain ⟨p, rfl⟩ := Nat.exists_eq_add_one.2 (Nat.zero_lt_of_lt within)
    exact reads_bool k b
  | int n low high =>
    obtain ⟨p, rfl⟩ := Nat.exists_eq_add_one.2 (Nat.zero_lt_of_lt within)
    exact reads_int low high
  | float x _ =>
    obtain ⟨p, rfl⟩ := Nat.exists_eq_add_one.2 (Nat.zero_lt_of_lt within)
    exact reads_float x
  | str s =>
    obtain ⟨p, rfl⟩ := Nat.exists_eq_add_one.2 (Nat.zero_lt_of_lt within)
    exact reads_str s
  | arr items each ih =>
    obtain ⟨p, rfl⟩ := Nat.exists_eq_add_one.2 (Nat.zero_lt_of_lt within)
    rw [reread, rereadItems_eq]
    exact reads_arr k fun deep j hj => ih j hj (k + 1) (by omega)
  | obj entries sorted each ih =>
    obtain ⟨p, rfl⟩ := Nat.exists_eq_add_one.2 (Nat.zero_lt_of_lt within)
    rw [reread, rereadEntries_eq]
    exact reads_obj k sorted fun deep e he => ih e he (k + 1) (by omega)

mutual

/-- Whether the document is read back from its text where so many containers may be opened, and
one: none lies too deep, and every float is read as an equal one. -/
def survives : Nat → Json → Bool
  | _, float x => (rereadFloat x).any fun j => j.same (float x)
  | depth, arr items => 1 < depth && survivesItems (depth - 1) items
  | depth, obj entries => 1 < depth && survivesEntries (depth - 1) entries
  | _, _ => true

def survivesItems : Nat → List Json → Bool
  | _, [] => true
  | depth, j :: rest => survives depth j && survivesItems depth rest

def survivesEntries : Nat → List (String × Json) → Bool
  | _, [] => true
  | depth, (_, j) :: rest => survives depth j && survivesEntries depth rest

end

theorem any_sameItems {items : List Json} {depth : Nat}
    (each : ∀ j ∈ items, (reread depth j).any (fun i => i.same j) = survives depth j) :
    (rereadItems depth items).any (fun back => sameItems back items) =
      survivesItems depth items := by
  induction items with
  | nil => rfl
  | cons j rest ih =>
    have head := each j List.mem_cons_self
    have later := ih fun i hi => each i (List.mem_cons_of_mem j hi)
    rw [rereadItems, survivesItems, ← head, ← later]
    cases reread depth j with
    | none => rfl
    | some i =>
      cases rereadItems depth rest with
      | none => simp
      | some back => rfl

theorem any_sameEntries {entries : List (String × Json)} {depth : Nat}
    (each : ∀ e ∈ entries, (reread depth e.2).any (fun i => i.same e.2) = survives depth e.2) :
    (rereadEntries depth entries).any (fun back => sameEntries back entries) =
      survivesEntries depth entries := by
  induction entries with
  | nil => rfl
  | cons e rest ih =>
    obtain ⟨key, j⟩ := e
    have head := each (key, j) List.mem_cons_self
    have later := ih fun d hd => each d (List.mem_cons_of_mem _ hd)
    rw [rereadEntries, survivesEntries, ← head, ← later]
    cases reread depth j with
    | none => rfl
    | some i =>
      cases rereadEntries depth rest with
      | none => simp
      | some back => simp [sameEntries]

theorem any_nested {α : Type} (depth : Nat) (inner : Option α) (build : α → Json)
    (p : Json → Bool) :
    (if depth ≤ 1 then none else inner.map build).any p =
      (decide (1 < depth) && inner.any fun a => p (build a)) := by
  by_cases shallow : depth ≤ 1
  · rw [if_pos shallow, decide_eq_false (Nat.not_lt.2 shallow), Bool.false_and, Option.any_none]
  · rw [if_neg shallow, decide_eq_true (Nat.not_le.1 shallow), Bool.true_and, Option.any_map]

/-- Two things keep a document from being read back: a float, and containers too deep. -/
theorem any_same {j : Json} (canonical : Canonical j) (depth : Nat) :
    (reread depth j).any (fun i => i.same j) = survives depth j := by
  induction canonical generalizing depth with
  | null => rfl
  | bool b => simp [reread, survives, same]
  | int n => simp [reread, survives, same]
  | float x => rfl
  | str s => simp [reread, survives, same]
  | arr items each ih =>
    rw [reread, survives, ← any_sameItems fun j hj => ih j hj (depth - 1), any_nested]
    rfl
  | obj entries sorted each ih =>
    rw [reread, survives, ← any_sameEntries fun e he => ih e he (depth - 1), any_nested]
    rfl

end Json

end ModHost
