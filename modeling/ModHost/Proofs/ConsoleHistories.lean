import Mathlib.Data.List.DropRight
import ModHost.Console

set_option autoImplicit false

/-!
# Histories of consoles

A console is shared: each holder has a handle of its own, and what is done through one handle is
met through all others. The history of a console lists what was done with it, through whichever
handle, in the order of time, with what was answered. All that a console holds, answers and counts
follows from its history: whoever takes gets the latest entries since the last take, as many as the
console has room for, and every other entry is counted as dropped.
-/

namespace ModHost

namespace Console

inductive Use where
  | push (entry : ConsoleEntry)
  | drain
  | takeLines

inductive Answer where
  | nothing
  | entries (entries : List ConsoleEntry)
  | lines (lines : List String)

def Answer.texts : Answer → List String
  | nothing => []
  | entries es => es.map (·.text)
  | lines ls => ls

namespace Use

def given? : Use → Option ConsoleEntry
  | push e => some e
  | drain | takeLines => none

def takes (u : Use) : Bool := u.given?.isNone

def answer (es : List ConsoleEntry) : Use → Answer
  | push _ => .nothing
  | drain => .entries es
  | takeLines => .lines (es.map (·.text))

end Use

def use (c : Console) : Use → Answer × Console
  | .push e => (.nothing, c.push e)
  | .drain => (.entries c.drain.1, c.drain.2)
  | .takeLines => (.lines c.takeLines.1, c.takeLines.2)

/-- What was done with a console and answered, the oldest first. -/
abbrev History := List (Use × Answer)

namespace History

def pushed (h : History) : List ConsoleEntry := h.filterMap (·.1.given?)

/-- The entries that were pushed after the last take. -/
def sinceTaken (h : History) : List ConsoleEntry := pushed (h.rtakeWhile fun e => !e.1.takes)

/-- The texts that were handed over, in the order in which they were. -/
def taken (h : History) : List String := h.flatMap (·.2.texts)

variable (h : History) (a : Answer)

theorem pushed_concat (u : Use) : pushed (h ++ [(u, a)]) = pushed h ++ u.given?.toList := by
  cases told : u.given? <;> simp [pushed, told]

theorem sinceTaken_push (e : ConsoleEntry) :
    sinceTaken (h ++ [(.push e, a)]) = sinceTaken h ++ [e] := by
  rw [sinceTaken, List.rtakeWhile_concat_pos _ _ _ rfl, pushed_concat]
  rfl

theorem sinceTaken_take {u : Use} (takes : u.takes = true) : sinceTaken (h ++ [(u, a)]) = [] := by
  rw [sinceTaken, List.rtakeWhile_concat_neg _ _ _ (by simp [takes])]
  rfl

theorem taken_concat (u : Use) : taken (h ++ [(u, a)]) = taken h ++ a.texts := by
  simp [taken]

end History

open History

theorem length_rtake {α : Type} (l : List α) (n : Nat) : (l.rtake n).length = min n l.length := by
  rw [List.rtake, List.length_drop]
  omega

theorem rtake_min_length {α : Type} (l : List α) (n : Nat) :
    l.rtake (min n l.length) = l.rtake n := by
  rw [List.rtake, List.rtake]
  congr 1
  omega

theorem rtake_concat_rtake {α : Type} (l : List α) (x : α) (n : Nat) :
    (l.rtake n ++ [x]).rtake n = (l ++ [x]).rtake n := by
  cases n with
  | zero => simp
  | succ n =>
    rw [List.rtake_concat_succ, List.rtake_concat_succ]
    congr 1
    simp only [List.rtake, List.length_drop, List.drop_drop]
    congr 1
    omega

theorem evict_eq (capacity : Nat) (entries : List ConsoleEntry) (dropped : Nat) :
    evict capacity entries dropped =
      (entries.drop (entries.length - capacity), dropped + (entries.length - capacity)) := by
  induction entries generalizing dropped with
  | nil => simp [evict]
  | cons oldest rest ih =>
    rw [evict, List.length_cons]
    split
    · next full =>
      have one : rest.length + 1 - capacity = rest.length - capacity + 1 := by omega
      rw [ih, one, List.drop_succ_cons]
      congr 1
      omega
    · next fits =>
      have none : rest.length + 1 - capacity = 0 := by omega
      rw [none]
      rfl

theorem push_eq (c : Console) (e : ConsoleEntry) :
    c.push e = { c with
      entries := (c.entries ++ [e]).rtake c.capacity
      dropped := c.dropped + (c.length + 1 - c.capacity) } := by
  have count : (c.entries ++ [e]).length = c.length + 1 := List.length_append
  rw [push, evict_eq, count, List.rtake, count]

theorem push_roomy {c : Console} (room : c.length < c.capacity) (e : ConsoleEntry) :
    c.push e = { c with entries := c.entries ++ [e] } := by
  have fits : (c.entries ++ [e]).length ≤ c.capacity := by
    rw [List.length_append]
    exact room
  have none : c.length + 1 - c.capacity = 0 := by omega
  rw [push_eq, List.rtake, Nat.sub_eq_zero_of_le fits, none]
  rfl

theorem push_full {c : Console} (full : c.length = c.capacity) (some_room : 0 < c.capacity)
    (e : ConsoleEntry) :
    c.push e = { c with entries := c.entries.tail ++ [e], dropped := c.dropped + 1 } := by
  have one : c.length + 1 - c.capacity = 1 := by omega
  have count : (c.entries ++ [e]).length = c.length + 1 := List.length_append
  have nonempty : c.entries ≠ [] := by
    intro empty
    simp only [length, empty, List.length_nil] at full
    omega
  rw [push_eq, List.rtake, count, one, List.drop_one, List.tail_append_of_ne_nil nonempty]

/-- `Lived capacity history c`: a console with this capacity has come to be `c`. -/
inductive Lived (capacity : Nat) : History → Console → Prop
  | new : Lived capacity [] (.ofCapacity capacity)
  | use {h : History} {c : Console} (lived : Lived capacity h c) (u : Use) :
      Lived capacity (h ++ [(u, (c.use u).1)]) (c.use u).2

theorem use_capacity (c : Console) (u : Use) : (c.use u).2.capacity = c.capacity := by
  cases u <;> rfl

theorem dropped_le_use (c : Console) (u : Use) : c.dropped ≤ (c.use u).2.dropped := by
  cases u with
  | push e =>
    rw [use, push_eq]
    exact Nat.le_add_right _ _
  | drain | takeLines => exact Nat.le_refl _

theorem use_answer (c : Console) (u : Use) : (c.use u).1 = u.answer c.entries := by
  cases u <;> rfl

theorem use_accounted (c : Console) (u : Use) :
    (c.use u).2.dropped + (c.use u).1.texts.length + (c.use u).2.length =
      c.dropped + c.length + u.given?.toList.length := by
  cases u with
  | push e =>
    rw [use, push_eq]
    simp only [Answer.texts, Use.given?, Option.toList_some, length, length_rtake,
      List.length_append, List.length_singleton, List.length_nil]
    omega
  | drain | takeLines =>
    simp only [use, drain, takeLines, Answer.texts, Use.given?, Option.toList_none, length,
      List.length_map, List.length_nil, Nat.add_zero]

theorem use_in_order (c : Console) (u : Use) :
    ((c.use u).1.texts ++ (c.use u).2.entries.map (·.text)).Sublist
      ((c.entries ++ u.given?.toList).map (·.text)) := by
  cases u with
  | push e =>
    have kept : (c.push e).entries.Sublist (c.entries ++ [e]) := by
      rw [push_eq]
      exact List.drop_sublist _ _
    exact kept.map (·.text)
  | drain | takeLines => simp [use, drain, takeLines, Answer.texts, Use.given?]

namespace Lived

variable {capacity : Nat} {h : History} {c : Console}

theorem capacity_eq (lived : Lived capacity h c) : c.capacity = max capacity 1 := by
  induction lived with
  | new => rfl
  | use _ u ih => rw [use_capacity, ih]

theorem entries_eq (lived : Lived capacity h c) :
    c.entries = (sinceTaken h).rtake (max capacity 1) := by
  induction lived with
  | new => exact (List.rtake_nil _).symm
  | @use h c lived u ih =>
    cases u with
    | push e =>
      rw [sinceTaken_push, ← rtake_concat_rtake, ← ih, ← lived.capacity_eq, Console.use, push_eq]
    | drain | takeLines =>
      rw [sinceTaken_take _ _ rfl, List.rtake_nil]
      rfl

theorem length_le (lived : Lived capacity h c) : c.length ≤ max capacity 1 := by
  rw [length, lived.entries_eq, length_rtake]
  exact Nat.min_le_left _ _

theorem accounted (lived : Lived capacity h c) :
    c.dropped + (taken h).length + c.length = (pushed h).length := by
  induction lived with
  | new => rfl
  | @use h c lived u ih =>
    have step := c.use_accounted u
    rw [taken_concat, pushed_concat, List.length_append, List.length_append]
    omega

theorem in_order (lived : Lived capacity h c) :
    (taken h ++ c.entries.map (·.text)).Sublist ((pushed h).map (·.text)) := by
  induction lived with
  | new => exact .slnil
  | @use h c lived u ih =>
    have step := (c.use_in_order u).append_left (taken h)
    rw [List.map_append, ← List.append_assoc, ← List.append_assoc] at step
    rw [taken_concat, pushed_concat, List.map_append]
    exact step.trans (ih.append_right _)

theorem answered (lived : Lived capacity h c) {before after : History} {u : Use} {a : Answer}
    (split : h = before ++ (u, a) :: after) :
    a = u.answer ((sinceTaken before).rtake (max capacity 1)) := by
  induction lived generalizing after with
  | new => simp at split
  | @use h c lived v ih =>
    rcases List.eq_nil_or_concat after with rfl | ⟨earlier, last, rfl⟩
    · obtain ⟨rfl, same⟩ := List.append_inj' split rfl
      obtain ⟨rfl, rfl⟩ := Prod.mk.inj (List.cons.inj same).1
      rw [use_answer, lived.entries_eq]
    · rw [List.concat_eq_append, ← List.cons_append, ← List.append_assoc] at split
      exact ih (List.append_inj' split rfl).1

end Lived

/-- What holds of a console of some capacity after any history: what it has answered, what it
holds, and what it has dropped. -/
structure Accounted (capacity : Nat) (h : History) (c : Console) : Prop where
  bounded : c.length ≤ max capacity 1
  /-- A take answers the latest of the `k` entries since the last one, oldest first. -/
  answered : ∀ before u a after, h = before ++ (u, a) :: after →
    a = u.answer ((sinceTaken before).rtake (min (max capacity 1) (sinceTaken before).length))
  emptied : ∀ before u a, h = before ++ [(u, a)] → u.takes = true → c.isEmpty = true
  buffered : c.entries = (sinceTaken h).rtake (max capacity 1)
  counted : c.dropped + (taken h).length + c.length = (pushed h).length
  in_order : (taken h ++ c.entries.map (·.text)).Sublist ((pushed h).map (·.text))
  /-- Nothing is dropped while there is room. -/
  roomy : ∀ e, c.length < max capacity 1 → c.push e = { c with entries := c.entries ++ [e] }
  full : ∀ e, c.length = max capacity 1 →
    c.push e = { c with entries := c.entries.tail ++ [e], dropped := c.dropped + 1 }

theorem Lived.all_accounted {capacity : Nat} {h : History} {c : Console}
    (lived : Lived capacity h c) : Accounted capacity h c where
  bounded := lived.length_le
  answered before u a after split := by
    rw [rtake_min_length]
    exact lived.answered split
  emptied before u a split takes := by
    rw [isEmpty, lived.entries_eq, split, sinceTaken_take _ _ takes, List.rtake_nil]
    rfl
  buffered := lived.entries_eq
  counted := lived.accounted
  in_order := lived.in_order
  roomy e room := push_roomy (lived.capacity_eq ▸ room) e
  full e full := push_full (lived.capacity_eq ▸ full) (by rw [lived.capacity_eq]; omega) e

end Console

/-- Consoles that are in use, and the handles to them: for each handle the number of its
console. Several handles may lead to one console. -/
structure Consoles where
  buffers : List Console
  handles : List Nat

namespace Consoles

open Console (Use Answer History Lived Accounted)

/-- Something that is done with consoles: a new one is made, with a first handle; a handle is
doubled; or a console is used through one of its handles. -/
inductive Deed where
  | create (capacity : Nat)
  | share (handle : Nat)
  | use (handle : Nat) (u : Use)

abbrev Trace := List (Nat × Use × Answer)

/-- A deed, with what it adds to the trace. Through a handle that does not exist nothing is
done. -/
def step (s : Consoles) : Deed → Trace × Consoles
  | .create capacity =>
    ([], ⟨s.buffers ++ [.ofCapacity capacity], s.handles ++ [s.buffers.length]⟩)
  | .share handle => ([], { s with handles := s.handles ++ s.handles[handle]?.toList })
  | .use handle u =>
    match s.handles[handle]? with
    | none => ([], s)
    | some n =>
      match s.buffers[n]? with
      | none => ([], s)
      | some c =>
        ([(n, u, (c.use u).1)], { s with buffers := s.buffers.set n (c.use u).2 })

def run : Consoles → List Deed → Trace × Consoles
  | s, [] => ([], s)
  | s, d :: rest => ((s.step d).1 ++ (run (s.step d).2 rest).1, (run (s.step d).2 rest).2)

/-- The history of the console of a number. -/
def Trace.of (n : Nat) (t : Trace) : History :=
  t.filterMap fun e => if e.1 = n then some e.2 else none

theorem Trace.of_append (n : Nat) (t later : Trace) :
    Trace.of n (t ++ later) = Trace.of n t ++ Trace.of n later := by
  simp [Trace.of]

variable {s : Consoles} {n capacity : Nat} {h : History} {c : Console}

theorem lived_step (here : s.buffers[n]? = some c) (lived : Lived capacity h c) (d : Deed) :
    ∃ c', (s.step d).2.buffers[n]? = some c' ∧
      Lived capacity (h ++ Trace.of n (s.step d).1) c' ∧ c.dropped ≤ c'.dropped := by
  have inside : n < s.buffers.length := (List.getElem?_eq_some_iff.1 here).1
  have unchanged : Lived capacity (h ++ Trace.of n []) c := by
    rwa [Trace.of, List.filterMap_nil, List.append_nil]
  cases d with
  | create other =>
    exact ⟨c, (List.getElem?_append_left inside).trans here, unchanged, Nat.le_refl _⟩
  | share handle => exact ⟨c, here, unchanged, Nat.le_refl _⟩
  | use handle u =>
    unfold step
    dsimp only
    split
    · exact ⟨c, here, unchanged, Nat.le_refl _⟩
    · next m _ =>
      split
      · exact ⟨c, here, unchanged, Nat.le_refl _⟩
      · next used found =>
        by_cases same : m = n
        · subst same
          obtain rfl := Option.some.inj (here.symm.trans found)
          refine ⟨(c.use u).2, List.getElem?_set_self inside, ?_, c.dropped_le_use u⟩
          have told : Trace.of m [(m, u, (c.use u).1)] = [(u, (c.use u).1)] := by
            simp [Trace.of]
          rw [told]
          exact lived.use u
        · have told : Trace.of n [(m, u, (used.use u).1)] = [] := by
            simp [Trace.of, same]
          rw [told, List.append_nil]
          exact ⟨c, (List.getElem?_set_ne same).trans here, lived, Nat.le_refl _⟩

theorem lived_run (here : s.buffers[n]? = some c) (lived : Lived capacity h c)
    (deeds : List Deed) :
    ∃ c', (s.run deeds).2.buffers[n]? = some c' ∧
      Lived capacity (h ++ Trace.of n (s.run deeds).1) c' ∧ c.dropped ≤ c'.dropped := by
  induction deeds generalizing s h c with
  | nil =>
    refine ⟨c, here, ?_, Nat.le_refl _⟩
    rwa [run, Trace.of, List.filterMap_nil, List.append_nil]
  | cons d rest ih =>
    obtain ⟨between, there, lives, less⟩ := lived_step here lived d
    obtain ⟨c', found, final, more⟩ := ih there lives
    refine ⟨c', found, ?_, less.trans more⟩
    rwa [run, Trace.of_append, ← List.append_assoc]

theorem handles_step (s : Consoles) (d : Deed) : s.handles <+: (s.step d).2.handles := by
  cases d with
  | create capacity => exact List.prefix_append _ _
  | share handle => exact List.prefix_append _ _
  | use handle u =>
    unfold step
    dsimp only
    split
    · exact List.prefix_rfl
    · split <;> exact List.prefix_rfl

theorem handles_run (s : Consoles) (deeds : List Deed) : s.handles <+: (s.run deeds).2.handles := by
  induction deeds generalizing s with
  | nil => exact List.prefix_rfl
  | cons d rest ih => exact (handles_step s d).trans (ih (s.step d).2)

theorem step_use {handle : Nat} (leads : s.handles[handle]? = some n)
    (here : s.buffers[n]? = some c) (u : Use) :
    s.step (.use handle u) =
      ([(n, u, (c.use u).1)], { s with buffers := s.buffers.set n (c.use u).2 }) := by
  simp only [step, leads, here]

/-- A console that is created among others and then shared and used in any way has answered, holds
and has dropped just what its history says. Each of its handles, of which the first always remains,
leads to what it has become, and it never counts fewer entries as dropped later. -/
theorem shared_console_accounted (s : Consoles) (capacity : Nat) (deeds : List Deed) :
    let n := s.buffers.length
    let after := (s.step (.create capacity)).2.run deeds
    ∃ c, after.2.buffers[n]? = some c ∧ Accounted capacity (Trace.of n after.1) c ∧
      after.2.handles[s.handles.length]? = some n ∧
      (∀ handle, after.2.handles[handle]? = some n → ∀ u, after.2.step (.use handle u) =
        ([(n, u, (c.use u).1)],
          { after.2 with buffers := after.2.buffers.set n (c.use u).2 })) ∧
      ∀ more, ∃ later, (after.2.run more).2.buffers[n]? = some later ∧
        c.dropped ≤ later.dropped := by
  intro n after
  have fresh : (s.step (.create capacity)).2.buffers[n]? = some (.ofCapacity capacity) :=
    List.getElem?_concat_length
  have first : (s.step (.create capacity)).2.handles[s.handles.length]? = some n :=
    List.getElem?_concat_length
  obtain ⟨c, here, lived, -⟩ := lived_run fresh .new deeds
  refine ⟨c, here, lived.all_accounted, ?remains, fun handle leads => step_use leads here, ?counts⟩
  case remains =>
    obtain ⟨added, grown⟩ := handles_run (s.step (.create capacity)).2 deeds
    rw [← grown, List.getElem?_append_left (List.getElem?_eq_some_iff.1 first).1, first]
  case counts =>
    intro more
    obtain ⟨later, there, -, less⟩ := lived_run here lived more
    exact ⟨later, there, less⟩

end Consoles

end ModHost
