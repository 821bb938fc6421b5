import ModHost.HookRegistry

set_option autoImplicit false

/-!
# Registries and their logs

A registry has a list for each kind, made when the kind is first met, and counts what is in
them. What was registered is one log, in the order of time. The lists of a registry are told by
the log that was entered in it: each has the entries of its kind, and only kinds with an entry
have one.
-/

namespace ModHost

/-- The entries of one kind, in order. -/
def entriesOf (kind : HookKind) (log : List (HookKind × HookEntry)) : List HookEntry :=
  log.filterMap fun (k, e) => if k = kind then some e else none

theorem entriesOf_append (kind : HookKind) (xs ys : List (HookKind × HookEntry)) :
    entriesOf kind (xs ++ ys) = entriesOf kind xs ++ entriesOf kind ys :=
  List.filterMap_append

theorem entriesOf_single (kind k : HookKind) (e : HookEntry) :
    entriesOf kind [(k, e)] = if k = kind then [e] else [] := by
  rw [entriesOf, List.filterMap_cons, List.filterMap_nil]
  split <;> simp_all

theorem entriesOf_flatMap {α : Type} (kind : HookKind) (xs : List α)
    (f : α → List (HookKind × HookEntry)) :
    entriesOf kind (xs.flatMap f) = xs.flatMap fun x => entriesOf kind (f x) :=
  List.filterMap_flatMap

theorem mem_entriesOf {kind : HookKind} {e : HookEntry} {log : List (HookKind × HookEntry)} :
    e ∈ entriesOf kind log ↔ (kind, e) ∈ log := by
  simp only [entriesOf, List.mem_filterMap, Option.ite_none_right_eq_some, Option.some.injEq]
  constructor
  · rintro ⟨⟨k, e'⟩, mem, rfl, rfl⟩
    exact mem
  · intro mem
    exact ⟨_, mem, rfl, rfl⟩

namespace HookLists

variable {kind k : HookKind} {e : HookEntry} {lists : List (HookKind × List HookEntry)}

theorem listOf_added : listOf k (added kind e lists) =
    if kind = k then some ((listOf k lists).getD [] ++ [e]) else listOf k lists := by
  induction lists with
  | nil => rfl
  | cons first rest ih =>
    obtain ⟨k', es⟩ := first
    rw [added]
    by_cases here : k' = kind
    · subst here
      by_cases same : k' = k <;> simp [listOf, same]
    · rw [if_neg here, listOf, listOf, ih]
      by_cases same : k' = k
      · subst same
        simp [Ne.symm here]
      · simp [same]

theorem get?_add (h : HookLists) : (h.add kind e).get? k =
    if kind = k then some ((h.get? k).getD [] ++ [e]) else h.get? k :=
  listOf_added

end HookLists

namespace HookRegistry

theorem count_eq (r : HookRegistry) (kind : HookKind) :
    r.count kind = (r.snapshot kind).length := by
  unfold count snapshot
  cases r.hooks.get? kind <;> rfl

/-- The registry with more entries, one after the other. -/
def extend (r : HookRegistry) (more : List (HookKind × HookEntry)) : HookRegistry :=
  { r with hooks := more.foldl (fun h (kind, e) => h.add kind e) r.hooks }

theorem extend_nil (r : HookRegistry) : r.extend [] = r := rfl

theorem extend_cons (r : HookRegistry) (first : HookKind × HookEntry)
    (rest : List (HookKind × HookEntry)) :
    r.extend (first :: rest) = { r with hooks := r.hooks.add first.1 first.2 }.extend rest := rfl

theorem extend_extend (r : HookRegistry) (xs ys : List (HookKind × HookEntry)) :
    (r.extend xs).extend ys = r.extend (xs ++ ys) := by
  simp only [extend, List.foldl_append]

/-- The lists of a registry are those of a log. -/
def Follows (r : HookRegistry) (log : List (HookKind × HookEntry)) : Prop :=
  ∀ kind, r.hooks.get? kind =
    if entriesOf kind log = [] then none else some (entriesOf kind log)

variable {r : HookRegistry} {log : List (HookKind × HookEntry)}

theorem follows_clear (r : HookRegistry) : r.clear.Follows [] := fun _ => rfl

theorem Follows.snapshot_eq (follows : r.Follows log) (kind : HookKind) :
    r.snapshot kind = entriesOf kind log := by
  rw [snapshot, follows kind]
  split
  · next none => exact none.symm
  · rfl

theorem Follows.add (follows : r.Follows log) (k : HookKind) (e : HookEntry) :
    { r with hooks := r.hooks.add k e : HookRegistry }.Follows (log ++ [(k, e)]) := by
  intro kind
  have listed : (r.hooks.get? kind).getD [] = entriesOf kind log := follows.snapshot_eq kind
  rw [HookLists.get?_add, entriesOf_append, entriesOf_single, listed]
  by_cases same : k = kind
  · simp [same]
  · rw [if_neg same, if_neg same, List.append_nil]
    exact follows kind

theorem Follows.extend (follows : r.Follows log) (more : List (HookKind × HookEntry)) :
    (r.extend more).Follows (log ++ more) := by
  induction more generalizing r log with
  | nil => rwa [List.append_nil]
  | cons first rest ih =>
    rw [List.append_cons, extend_cons]
    exact ih (follows.add first.1 first.2)

theorem snapshot_add (r : HookRegistry) (k : HookKind) (e : HookEntry) (kind : HookKind) :
    { r with hooks := r.hooks.add k e : HookRegistry }.snapshot kind =
      r.snapshot kind ++ entriesOf kind [(k, e)] := by
  rw [snapshot, HookLists.get?_add, entriesOf_single]
  by_cases same : k = kind
  · rw [if_pos same, if_pos same]
    rfl
  · rw [if_neg same, if_neg same, List.append_nil, snapshot]

theorem snapshot_extend (r : HookRegistry) (more : List (HookKind × HookEntry))
    (kind : HookKind) : (r.extend more).snapshot kind = r.snapshot kind ++ entriesOf kind more := by
  induction more generalizing r with
  | nil => exact (List.append_nil _).symm
  | cons first rest ih =>
    rw [extend_cons, ih, snapshot_add, List.append_assoc, ← entriesOf_append,
      List.singleton_append]

end HookRegistry

end ModHost
