import ModHost.Json
import ModHost.Script.Value

set_option autoImplicit false

/-!
# Sorted entries

Maps of scripts and objects of documents keep their entries in the order of the keys, and put an
entry in its place in the same way. Nothing else enters, and the order stays strict.
-/

namespace ModHost

open Script (Value)

variable {α : Type}

/-- Set a key among entries that are sorted. -/
def insertEntry (key : String) (value : α) : List (String × α) → List (String × α)
  | [] => [(key, value)]
  | (k, v) :: rest =>
    if key = k then (key, value) :: rest
    else if key < k then (key, value) :: (k, v) :: rest
    else (k, v) :: insertEntry key value rest

theorem mem_insertEntry {key : String} {value : α} {entries : List (String × α)} {e : String × α}
    (mem : e ∈ insertEntry key value entries) : e = (key, value) ∨ e ∈ entries := by
  induction entries with
  | nil => exact .inl (List.mem_singleton.1 mem)
  | cons d rest ih =>
    unfold insertEntry at mem
    split at mem
    · rcases List.mem_cons.1 mem with new | old
      · exact .inl new
      · exact .inr (List.mem_cons_of_mem d old)
    · split at mem
      · rcases List.mem_cons.1 mem with new | old
        · exact .inl new
        · exact .inr old
      · rcases List.mem_cons.1 mem with rfl | later
        · exact .inr List.mem_cons_self
        · exact (ih later).imp_right (List.mem_cons_of_mem d)

theorem sorted_insertEntry (key : String) (value : α) {entries : List (String × α)}
    (sorted : entries.Pairwise fun d e => d.1 < e.1) :
    (insertEntry key value entries).Pairwise fun d e => d.1 < e.1 := by
  induction entries with
  | nil => exact List.pairwise_singleton _ _
  | cons d rest ih =>
    obtain ⟨least, later⟩ := List.pairwise_cons.1 sorted
    unfold insertEntry
    split
    · next same => exact List.pairwise_cons.2 ⟨fun e mem => same ▸ least e mem, later⟩
    · next other =>
      split
      · next below =>
        refine List.pairwise_cons.2 ⟨fun e mem => ?_, sorted⟩
        rcases List.mem_cons.1 mem with rfl | mem
        · exact below
        · exact String.lt_trans below (least e mem)
      · next above =>
        have before : d.1 < key := Decidable.byContradiction fun notBefore =>
          other (String.le_antisymm (String.not_lt.1 notBefore) (String.not_lt.1 above))
        refine List.pairwise_cons.2 ⟨fun e mem => ?_, ih later⟩
        rcases mem_insertEntry mem with rfl | old
        · exact before
        · exact least e old

theorem Json.insert_eq (key : String) (value : Json) (entries : List (String × Json)) :
    Json.insert key value entries = insertEntry key value entries := by
  induction entries with
  | nil => rfl
  | cons d rest ih => rw [Json.insert, insertEntry, ih]

theorem Script.Value.insert_eq (key : String) (value : Value) (entries : List (String × Value)) :
    Value.insert key value entries = insertEntry key value entries := by
  induction entries with
  | nil => rfl
  | cons d rest ih => rw [Value.insert, insertEntry, ih]

end ModHost
