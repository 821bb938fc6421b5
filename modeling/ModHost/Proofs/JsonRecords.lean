import ModHost.Proofs.JsonValues

set_option autoImplicit false

/-!
# Records that were written

How a document fares that was written and is read for a shape. A record that has each of its
fields once, but for those that may be missing, is read field by field.
-/

namespace ModHost

namespace JsonShape

open JsonReader

variable {α : Type} {depth : Nat} {text : List UInt8}

theorem still_ofExcept (x : Except JsonFault α) : Still (ofExcept x) x.toOption := by
  cases x with
  | ok a => exact fun _ _ => rfl
  | error f => exact fun _ _ => ⟨_, _, rfl⟩

theorem reads_text (what s : String) :
    Reads (JsonShape.text what).read depth (textBytes (Json.stringText s)) (some (.str s)) := by
  refine Reads.placed (reads_valueStart (textBytes_stringText s) (by decide) (by decide)
    fun env c tail _ _ rest enough => ?_)
  exact Goes.bind_goes (goes_string rest enough) fun c' left => ⟨c', rfl, left⟩

theorem reads_integer (type : String) {least greatest n : Int} (low : least ≤ n)
    (high : n ≤ greatest) (lowest : Int64.minValue.toInt ≤ n) (highest : n < UInt64.size) :
    Reads (JsonShape.integer type least greatest).read depth (textBytes (toString n))
      (some (.int n)) := by
  obtain ⟨b, l, layout, starts⟩ := (numberText_int n).starts
  obtain ⟨ink, bracket, -⟩ := startsNumber_other starts
  refine Reads.placed (reads_valueStart layout ink bracket fun env c tail _ stops rest enough => ?_)
  rw [if_pos starts]
  refine Goes.bind_goes (goes_int lowest highest stops rest enough) fun c' left => ⟨c', ?_, left⟩
  rw [checkInteger, if_pos ⟨low, high⟩]
  rfl

theorem reads_choice {names : List String} {s : String} (known : names.contains s = true) :
    Reads (JsonShape.choice names).read depth (textBytes (Json.stringText s))
      (some (.str s)) := by
  have name : Reads (readName names) depth (textBytes (Json.stringText s)) (some (.str s)) := by
    refine Reads.placed (reads_valueStart (textBytes_stringText s) (by decide) (by decide)
      fun env c tail _ _ rest enough => ?_)
    refine Goes.bind_goes (goes_string rest enough) fun c' left => ⟨c', ?_, left⟩
    rw [checkChoice, if_pos known]
    rfl
  exact reads_valueStart (textBytes_stringText s) (by decide) (by decide)
    fun env c tail deep stops rest enough =>
      name.leads env c [] tail deep blanks_nil stops rest enough

theorem itemsText_map {β γ : Type} (gap : List UInt8) (text : γ → List UInt8) (doc : β → γ)
    (first : Bool) (xs : List β) :
    itemsText gap text first (xs.map doc) = itemsText gap (fun x => text (doc x)) first xs := by
  induction xs generalizing first with
  | nil => rfl
  | cons x rest ih => rw [List.map_cons, itemsText, itemsText, ih]

theorem reads_list {β : Type} {shape : JsonShape} (k : Nat) {xs : List β} {doc : β → Json}
    {out : β → Option Json}
    (each : 1 < depth → ∀ x ∈ xs,
      Reads shape.read (depth - 1) (textBytes (Json.prettyAt (k + 1) (doc x))) (out x)) :
    Reads (JsonShape.list shape).read depth (textBytes (Json.prettyAt k (.arr (xs.map doc))))
      (if depth ≤ 1 then none else (xs.mapM out).map .arr) := by
  obtain ⟨last, blankLast, breaks, text⟩ := Json.textBytes_arr k (xs.map doc)
  refine Reads.placed (reads_valueStart text (by decide) (by decide)
    fun env c tail deep _ rest enough => ?_)
  subst deep
  rw [text, List.cons_append, List.append_assoc, List.append_assoc, itemsText_map] at rest
  have broken : xs ≠ [] → last.head? = some 10 := fun some => breaks (mt List.map_eq_nil_iff.1 some)
  have settles := (settles_list (Json.blanks_newline (k + 1)) blankLast broken each rest
    enough).map Json.arr
  rw [apply_ite (Option.map Json.arr)] at settles
  exact settles.outcome

theorem reads_items {β : Type} {shape : JsonShape} (k : Nat) {xs : List β} {doc back : β → Json}
    (deep : 1 < depth)
    (each : ∀ x ∈ xs,
      Reads shape.read (depth - 1) (textBytes (Json.prettyAt (k + 1) (doc x))) (some (back x))) :
    Reads (JsonShape.list shape).read depth (textBytes (Json.prettyAt k (.arr (xs.map doc))))
      (some (.arr (xs.map back))) := by
  have list := reads_list k fun _ => each
  rw [if_neg (Nat.not_le.2 deep)] at list
  have all : (xs.mapM fun x => some (back x)) = some (xs.map back) := List.mapM_pure
  rw [all] at list
  exact list

theorem reads_optional_null {shape : JsonShape} :
    Reads (JsonShape.optional shape).read depth (textBytes "null") (some .null) := by
  have bytes : textBytes "null" = 110 :: "ull".toList.map code := textBytes_literal (by decide)
  refine ⟨⟨110, _, bytes, by decide, by decide⟩,
    fun env c blanks tail _ blank _ rest enough => ?_⟩
  rw [bytes, List.append_assoc] at rest
  refine Goes.bind_goes (goes_token blank (by decide) rest enough) fun c' left => ?_
  exact Goes.bind_goes (goes_word left) fun c'' left' => ⟨c'', rfl, left'⟩

theorem reads_optional {shape : JsonShape} {out : Option Json} {b : UInt8} {l : List UInt8}
    (reads : Reads shape.read depth text out) (start : text = b :: l) (other : b ≠ code 'n') :
    Reads (JsonShape.optional shape).read depth text out := by
  refine ⟨reads.starts, fun env c blanks tail deep blank stops rest enough => ?_⟩
  obtain ⟨b', l', start', ink, -⟩ := reads.starts
  cases start.symm.trans start'
  rw [start, List.append_assoc] at rest
  refine Goes.bind_outcome (goes_token blank ink rest enough) fun c' left => ?_
  rw [if_neg fun same => other (Option.some.inj same)]
  refine reads.leads env c' [] tail deep blanks_nil stops ?_ ?_
  · rw [left, start]
    rfl
  · rw [rest, List.length_append] at enough
    rw [left]
    exact Nat.lt_of_le_of_lt (Nat.le_add_left _ _) enough

/-- What a record has found, with one entry more. -/
def findField (out : String → Option Json) (found : List (String × Json)) (e : String × Json) :
    Option (List (String × Json)) :=
  if (Json.lookup e.1 found).isSome then none else (out e.1).map fun j => (e.1, j) :: found

theorem reads_member {parts : List (Part (JsonReader Json))} {found : List (String × Json)}
    {e : String × Json} {out : String → Option Json} {p : Part (JsonReader Json)}
    (find : Part.find? parts e.1 = some p) (reads : Reads p.check depth text (out e.1)) :
    Reads (readMember parts found e.1) depth (58 :: 32 :: text) (findField out found e) := by
  unfold readMember findField
  rw [find]
  dsimp only
  by_cases twice : (Json.lookup e.1 found).isSome = true
  · rw [if_pos twice, if_pos twice]
    refine ⟨⟨58, _, rfl, by decide, by decide⟩, fun env c _ _ _ _ _ _ _ => .inl ?_⟩
    exact Fails.bind ⟨_, c, rfl⟩
  · rw [if_neg twice, if_neg twice]
    exact reads_colon (reads.map fun j => (e.1, j) :: found)

theorem findField_some {out : String → Option Json} {found found' : List (String × Json)}
    {e : String × Json} (made : findField out found e = some found') :
    ∃ j, out e.1 = some j ∧ found' = (e.1, j) :: found := by
  unfold findField at made
  split at made
  · cases made
  · obtain ⟨j, value, same⟩ := Option.map_eq_some_iff.1 made
    exact ⟨j, value, same.symm⟩

theorem lookup_findFields {out : String → Option Json} {entries found all : List (String × Json)}
    (made : entries.foldlM (findField out) found = some all) (name : String) :
    (name ∈ entries.map Prod.fst → ∃ j, out name = some j ∧ Json.lookup name all = some j) ∧
      (name ∉ entries.map Prod.fst → Json.lookup name all = Json.lookup name found) := by
  induction entries generalizing found with
  | nil =>
    cases made
    exact ⟨fun mem => absurd mem List.not_mem_nil, fun _ => rfl⟩
  | cons e rest ih =>
    rw [List.foldlM_cons] at made
    obtain ⟨found', first, later⟩ := Option.bind_eq_some_iff.1 made
    obtain ⟨j, value, rfl⟩ := findField_some first
    obtain ⟨there, absent⟩ := ih later
    rw [List.map_cons]
    refine ⟨fun mem => ?_, fun lacks => ?_⟩
    · by_cases again : name ∈ rest.map Prod.fst
      · exact there again
      · obtain rfl : name = e.1 := (List.mem_cons.1 mem).resolve_right again
        refine ⟨j, value, (absent again).trans ?_⟩
        rw [Json.lookup, if_pos rfl]
    · obtain ⟨other, lacks⟩ := not_or.1 (mt List.mem_cons.2 lacks)
      rw [absent lacks, Json.lookup, if_neg fun same => other same.symm]

/-- Only a field that cannot be read keeps entries with different keys from being found. -/
theorem findFields_none {out : String → Option Json} {entries found : List (String × Json)}
    (once : (entries.map Prod.fst).Nodup) (fresh : ∀ e ∈ entries, Json.lookup e.1 found = none)
    (lost : entries.foldlM (findField out) found = none) : ∃ e ∈ entries, out e.1 = none := by
  induction entries generalizing found with
  | nil => cases lost
  | cons e rest ih =>
    cases value : out e.1 with
    | none => exact ⟨e, List.mem_cons_self, value⟩
    | some j =>
      obtain ⟨single, once⟩ := List.nodup_cons.1 once
      have first : findField out found e = some ((e.1, j) :: found) := by
        rw [findField, fresh e List.mem_cons_self, value]
        rfl
      have later : ∀ d ∈ rest, Json.lookup d.1 ((e.1, j) :: found) = none := by
        intro d hd
        have other : e.1 ≠ d.1 := fun same => single (same ▸ List.mem_map_of_mem hd)
        rw [Json.lookup, if_neg other]
        exact fresh d (List.mem_cons_of_mem e hd)
      rw [List.foldlM_cons, first] at lost
      obtain ⟨d, hd, none⟩ := ih once later lost
      exact ⟨d, List.mem_cons_of_mem e hd, none⟩

theorem assemble_eq {χ : Type} {out : String → Option Json} {found : List (String × Json)}
    {parts : List (Part χ)}
    (each : ∀ p ∈ parts, (match Json.lookup p.name found with
      | some j => Except.ok j
      | none => p.ifMissing).toOption = out p.name) :
    (assemble found parts).toOption =
      parts.mapM fun p => (out p.name).map fun j => (p.name, j) := by
  induction parts with
  | nil => rfl
  | cons p rest ih =>
    rw [List.mapM_cons, ← ih fun q hq => each q (List.mem_cons_of_mem p hq),
      ← each p List.mem_cons_self, assemble]
    cases Json.lookup p.name found with
    | some j => cases assemble found rest <;> rfl
    | none =>
      cases p.ifMissing with
      | error f => rfl
      | ok j => cases assemble found rest <;> rfl

theorem mapM_none {α β : Type} {f : α → Option β} {xs : List α} {x : α} (mem : x ∈ xs)
    (lost : f x = none) : xs.mapM f = none := by
  induction xs with
  | nil => exact absurd mem List.not_mem_nil
  | cons y rest ih =>
    rw [List.mapM_cons]
    rcases List.mem_cons.1 mem with rfl | later
    · rw [lost]
      rfl
    · rw [ih later]
      cases f y with
      | none => rfl
      | some b => rfl

/-- The fields that are found come to what each field is by itself. -/
theorem findFields_assemble {χ : Type} {out : String → Option Json}
    {entries : List (String × Json)} {parts : List (Part χ)}
    (once : (entries.map Prod.fst).Nodup)
    (known : ∀ e ∈ entries, e.1 ∈ parts.map (·.name))
    (missing : ∀ p ∈ parts, p.name ∉ entries.map Prod.fst → p.ifMissing.toOption = out p.name) :
    ((entries.foldlM (findField out) []).bind fun found => (assemble found parts).toOption) =
      parts.mapM fun p => (out p.name).map fun j => (p.name, j) := by
  cases all : entries.foldlM (findField out) [] with
  | none =>
    obtain ⟨e, he, lost⟩ := findFields_none once (fun _ _ => rfl) all
    obtain ⟨p, hp, name⟩ := List.mem_map.1 (known e he)
    refine (mapM_none hp ?_).symm
    rw [name, lost]
    rfl
  | some found =>
    refine assemble_eq fun p hp => ?_
    obtain ⟨there, absent⟩ := lookup_findFields all p.name
    by_cases mem : p.name ∈ entries.map Prod.fst
    · obtain ⟨j, value, look⟩ := there mem
      rw [look, value]
      rfl
    · rw [absent mem]
      exact missing p hp mem

/-- A record is read field by field. -/
theorem reads_record (name : String) {parts : List (Part (JsonReader Json))}
    {entries : List (String × Json)} {out : String → Option Json} (k : Nat)
    (once : (entries.map Prod.fst).Nodup)
    (known : ∀ e ∈ entries, e.1 ∈ parts.map (·.name))
    (missing : ∀ p ∈ parts, p.name ∉ entries.map Prod.fst → p.ifMissing.toOption = out p.name)
    (each : 1 < depth → ∀ p ∈ parts, ∀ j, (p.name, j) ∈ entries →
      Reads p.check (depth - 1) (textBytes (Json.prettyAt (k + 1) j)) (out p.name)) :
    Reads (readRecord name parts) depth (textBytes (Json.prettyAt k (.obj entries)))
      (if depth ≤ 1 then none
      else (parts.mapM fun p => (out p.name).map fun j => (p.name, j)).map .obj) := by
  obtain ⟨last, blankLast, breaks, text⟩ := Json.textBytes_obj k entries
  refine Reads.placed (reads_valueStart text (by decide) (by decide)
    fun env c tail deep _ rest enough => ?_)
  subst deep
  rw [text, List.cons_append, List.append_assoc, List.append_assoc] at rest
  refine Goes.bind_outcome goes_read fun c' same => ?_
  have reads : 1 < env.depth → ∀ e ∈ entries, ∀ found,
      Reads (readMember parts found e.1) (env.depth - 1)
        (58 :: 32 :: textBytes (Json.prettyAt (k + 1) e.2)) (findField out found e) := by
    intro deep e he found
    obtain ⟨q, hq, named⟩ := List.mem_map.1 (known e he)
    cases find : Part.find? parts e.1 with
    | none =>
      have lost := List.find?_eq_none.1 find q hq
      exact absurd (decide_eq_true named) lost
    | some p =>
      have hp := List.mem_of_find?_eq_some find
      have found := List.find?_some find
      have name : p.name = e.1 := of_decide_eq_true found
      refine reads_member find ?_
      rw [← name]
      exact each deep p hp e.2 (name ▸ he)
  have settles := (settles_content [] (Json.blanks_newline (k + 1)) blankLast breaks reads
    (fun found => still_ofExcept (assemble found parts)) (same.trans rest) (same.symm ▸ enough)
    (same.symm ▸ enough)).map Json.obj
  rw [apply_ite (Option.map Json.obj), findFields_assemble once known missing] at settles
  exact settles.outcome

/-- How the fields of a record fare one by one: those of the shape, what was written for them,
and what each is read as. A field that was left out is what a missing one is. -/
inductive FieldsRead (depth k : Nat) :
    List JsonField → List (String × Json) → List (String × Option Json) → Prop where
  | nil : FieldsRead depth k [] [] []
  | written {name : String} {shape : JsonShape} {default? : Option Json} {j : Json}
      {out : Option Json} {fields : List JsonField} {entries : List (String × Json)}
      {backs : List (String × Option Json)}
      (reads : Reads shape.read depth (textBytes (Json.prettyAt k j)) out)
      (rest : FieldsRead depth k fields entries backs) :
      FieldsRead depth k (⟨name, shape, default?⟩ :: fields) ((name, j) :: entries)
        ((name, out) :: backs)
  | omitted {name : String} {shape : JsonShape} {fields : List JsonField}
      {entries : List (String × Json)} {backs : List (String × Option Json)}
      (rest : FieldsRead depth k fields entries backs) :
      FieldsRead depth k (⟨name, .optional shape, none⟩ :: fields) entries
        ((name, some .null) :: backs)

/-- What a field is read as. -/
def outOf : List (String × Option Json) → String → Option Json
  | [], _ => none
  | (key, out) :: rest, name => if key = name then out else outOf rest name

theorem outOf_first (name : String) (out : Option Json) (backs : List (String × Option Json)) :
    outOf ((name, out) :: backs) name = out := if_pos rfl

theorem outOf_later {name other : String} (apart : other ≠ name) (out : Option Json)
    (backs : List (String × Option Json)) :
    outOf ((other, out) :: backs) name = outOf backs name := if_neg apart

variable {k : Nat} {fields : List JsonField} {entries : List (String × Json)}
  {backs : List (String × Option Json)}

theorem FieldsRead.names (fares : FieldsRead depth k fields entries backs) :
    backs.map Prod.fst = (readParts fields).map (·.name) := by
  induction fares with
  | nil => rfl
  | written _ _ ih => exact congrArg (_ :: ·) ih
  | omitted _ ih => exact congrArg (_ :: ·) ih

theorem FieldsRead.keys (fares : FieldsRead depth k fields entries backs) :
    (entries.map Prod.fst).Sublist (backs.map Prod.fst) := by
  induction fares with
  | nil => exact .slnil
  | written _ _ ih => exact ih.cons_cons _
  | omitted _ ih => exact ih.cons _

theorem FieldsRead.each (fares : FieldsRead depth k fields entries backs)
    (distinct : (backs.map Prod.fst).Nodup) :
    ∀ p ∈ readParts fields, ∀ j, (p.name, j) ∈ entries →
      Reads p.check depth (textBytes (Json.prettyAt k j)) (outOf backs p.name) := by
  induction fares with
  | nil => exact fun p hp => absurd hp List.not_mem_nil
  | @written name shape default? j out fields entries backs reads rest ih =>
    obtain ⟨single, distinct⟩ := List.nodup_cons.1 distinct
    intro p hp i hi
    rcases List.mem_cons.1 hp with rfl | hp
    · rcases List.mem_cons.1 hi with same | hi
      · cases same
        rw [outOf_first]
        exact reads
      · exact absurd (rest.keys.subset (List.mem_map_of_mem hi)) single
    · have later : p.name ∈ backs.map Prod.fst := rest.names ▸ List.mem_map_of_mem hp
      have apart : name ≠ p.name := fun same => single (same ▸ later)
      rw [outOf_later apart]
      rcases List.mem_cons.1 hi with same | hi
      · exact absurd (congrArg Prod.fst same).symm apart
      · exact ih distinct p hp i hi
  | @omitted name shape fields entries backs rest ih =>
    obtain ⟨single, distinct⟩ := List.nodup_cons.1 distinct
    intro p hp i hi
    rcases List.mem_cons.1 hp with rfl | hp
    · exact absurd (rest.keys.subset (List.mem_map_of_mem hi)) single
    · have later : p.name ∈ backs.map Prod.fst := rest.names ▸ List.mem_map_of_mem hp
      have apart : name ≠ p.name := fun same => single (same ▸ later)
      rw [outOf_later apart]
      exact ih distinct p hp i hi

theorem FieldsRead.missing (fares : FieldsRead depth k fields entries backs)
    (distinct : (backs.map Prod.fst).Nodup) :
    ∀ p ∈ readParts fields, p.name ∉ entries.map Prod.fst →
      p.ifMissing.toOption = outOf backs p.name := by
  induction fares with
  | nil => exact fun p hp => absurd hp List.not_mem_nil
  | @written name shape default? j out fields entries backs reads rest ih =>
    obtain ⟨single, distinct⟩ := List.nodup_cons.1 distinct
    intro p hp lacks
    obtain ⟨apart, lacks⟩ := not_or.1 (mt List.mem_cons.2 lacks)
    rcases List.mem_cons.1 hp with rfl | hp
    · exact absurd rfl apart
    · rw [outOf_later (Ne.symm apart)]
      exact ih distinct p hp lacks
  | @omitted name shape fields entries backs rest ih =>
    obtain ⟨single, distinct⟩ := List.nodup_cons.1 distinct
    intro p hp lacks
    rcases List.mem_cons.1 hp with rfl | hp
    · rw [outOf_first]
      rfl
    · have later : p.name ∈ backs.map Prod.fst := rest.names ▸ List.mem_map_of_mem hp
      have apart : name ≠ p.name := fun same => single (same ▸ later)
      rw [outOf_later apart]
      exact ih distinct p hp lacks

theorem mapM_congr {α β : Type} {f g : α → Option β} {xs : List α}
    (same : ∀ x ∈ xs, f x = g x) : xs.mapM f = xs.mapM g := by
  induction xs with
  | nil => rfl
  | cons x rest ih =>
    rw [List.mapM_cons, List.mapM_cons, same x List.mem_cons_self,
      ih fun y hy => same y (List.mem_cons_of_mem x hy)]

theorem mapM_outOf {χ : Type} {parts : List (Part χ)} {backs : List (String × Option Json)}
    (names : backs.map Prod.fst = parts.map (·.name)) (distinct : (backs.map Prod.fst).Nodup) :
    (parts.mapM fun p => (outOf backs p.name).map fun j => (p.name, j)) =
      backs.mapM fun b => b.2.map fun j => (b.1, j) := by
  induction backs generalizing parts with
  | nil =>
    rw [List.map_eq_nil_iff.1 names.symm]
    rfl
  | cons b rest ih =>
    obtain ⟨p, parts, rfl, name, names⟩ := List.map_eq_cons_iff.1 names.symm
    obtain ⟨single, distinct⟩ := List.nodup_cons.1 distinct
    have later : ∀ q ∈ parts, b.1 ≠ q.name := fun q hq same =>
      single (same ▸ names ▸ List.mem_map_of_mem hq)
    rw [List.mapM_cons, List.mapM_cons, name, outOf_first, ← ih names.symm distinct]
    rw [mapM_congr fun q hq => congrArg (Option.map _) (outOf_later (later q hq) b.2 rest)]

theorem reads_fields {name : String} {out : Option Json} (deep : 1 < depth)
    (fares : FieldsRead (depth - 1) (k + 1) fields entries backs)
    (distinct : (backs.map Prod.fst).Nodup)
    (result : ((backs.mapM fun b : String × Option Json => b.2.map fun j => (b.1, j)).map
      Json.obj) = out) :
    Reads (JsonShape.record name fields).read depth (textBytes (Json.prettyAt k (.obj entries)))
      out := by
  have record := reads_record name k (fares.keys.nodup distinct)
    (fun e he => fares.names ▸ fares.keys.subset (List.mem_map_of_mem he))
    (fares.missing distinct) fun _ => fares.each distinct
  rw [if_neg (Nat.not_le.2 deep), mapM_outOf fares.names distinct, result] at record
  exact record

end JsonShape

end ModHost
