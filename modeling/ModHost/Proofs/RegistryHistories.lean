import Mathlib
import ModHost.Proofs.HookDispatch
import ModHost.Proofs.HostCalls
import ModHost.Proofs.NameResolution

set_option autoImplicit false

/-!
# Histories of hook registries

What is done with a registry, and what it answers, is its history. The registry keeps no history
itself: it has its lists by kind, whose entries name the unit that owns them, and the unit that owns
what comes next. Both follow from the history, and so does every answer. Scripts reach the registry
with `hook_event`, which registers for the kind of a number; what a run tells the host in this way
is entered in the registry in the order in which it was told.
-/

namespace ModHost

namespace HookLists

variable {lists : List (HookKind × List HookEntry)}

theorem listOf_eq_none {k : HookKind} (missing : k ∉ lists.map (·.1)) :
    listOf k lists = none := by
  induction lists with
  | nil => rfl
  | cons first rest ih =>
    rw [List.map_cons, List.mem_cons, not_or] at missing
    rw [listOf, if_neg (Ne.symm missing.1), ih missing.2]

/-- All lists are counted, each once, when those of all kinds are. -/
theorem sum_lengths (distinct : (lists.map (·.1)).Nodup) :
    (HookKind.all.map fun kind => ((listOf kind lists).map List.length).getD 0).sum =
      lists.foldr (fun (_, es) n => es.length + n) 0 := by
  induction lists with
  | nil => rfl
  | cons first rest ih =>
    obtain ⟨k, es⟩ := first
    rw [List.map_cons, List.nodup_cons] at distinct
    have others := ih distinct.2
    have absent := listOf_eq_none distinct.1
    rw [List.foldr_cons, ← others]
    cases k <;> simp [HookKind.all, listOf, absent] <;> omega

end HookLists

namespace HookRegistry

inductive Use where
  | setActive (unit : Option Nat)
  | register (kind : HookKind) (callback : Callback)
  | clear
  | snapshot (kind : HookKind)
  | count (kind : HookKind)
  | total

inductive Answer where
  | nothing
  | owner (previous : Option Nat)
  | registered (outcome : Except String Unit)
  | entries (entries : List HookEntry)
  | number (n : Nat)

def use (r : HookRegistry) : Use → Answer × HookRegistry
  | .setActive unit => (.owner (r.setActive unit).1, (r.setActive unit).2)
  | .register kind callback =>
    match r.register kind callback with
    | .ok r' => (.registered (.ok ()), r')
    | .error e => (.registered (.error e), r)
  | .clear => (.nothing, r.clear)
  | .snapshot kind => (.entries (r.snapshot kind), r)
  | .count kind => (.number (r.count kind), r)
  | .total => (.number r.total, r)

namespace Use

def owner? : Use → Option (Option Nat)
  | setActive unit => some unit
  | clear => some none
  | _ => none

def clears : Use → Bool
  | clear => true
  | _ => false

def entry? (owner : Option Nat) : Use → Answer → Option (HookKind × HookEntry)
  | register kind callback, .registered (.ok ()) =>
    owner.map fun unit => (kind, ⟨unit, callback⟩)
  | _, _ => none

/-- What is answered to a use under an owner, when these entries stand. -/
def answer (owner : Option Nat) (standing : List (HookKind × HookEntry)) : Use → Answer
  | setActive _ => .owner owner
  | register _ _ => .registered (if owner.isSome then .ok () else .error unownedText)
  | clear => .nothing
  | snapshot kind => .entries (entriesOf kind standing)
  | count kind => .number (entriesOf kind standing).length
  | total => .number (HookKind.all.map fun kind => (entriesOf kind standing).length).sum

end Use

abbrev History := List (Use × Answer)

namespace History

/-- The unit that the latest use to say so has made the owner. -/
def owner (h : History) : Option Nat := (h.reverse.findSome? (·.1.owner?)).join

/-- What the use at a moment has registered, under the unit that was the owner at this moment. -/
def entryAt? (h : History) (i : Nat) : Option (HookKind × HookEntry) :=
  h[i]?.bind fun (u, a) => u.entry? (owner (h.take i)) a

/-- Whether the registry was cleared at a moment or later. -/
def clearedFrom (h : History) (i : Nat) : Bool := (h.drop i).any (·.1.clears)

/-- What was registered and not cleared since, in the order of time. -/
def standing (h : History) : List (HookKind × HookEntry) :=
  (List.range h.length).filterMap fun i => if h.clearedFrom i then none else h.entryAt? i

variable (h : History) (u : Use) (a : Answer)

theorem owner_concat : owner (h ++ [(u, a)]) = u.owner?.getD (owner h) := by
  rw [owner, List.reverse_concat, List.findSome?_cons]
  cases u.owner? <;> rfl

theorem entryAt?_concat {i : Nat} (inside : i < h.length) :
    entryAt? (h ++ [(u, a)]) i = entryAt? h i := by
  rw [entryAt?, entryAt?, List.getElem?_append_left inside,
    List.take_append_of_le_length (Nat.le_of_lt inside)]

theorem clearedFrom_concat {i : Nat} (inside : i ≤ h.length) :
    clearedFrom (h ++ [(u, a)]) i = (clearedFrom h i || u.clears) := by
  rw [clearedFrom, List.drop_append_of_le_length inside, List.any_append, List.any_cons,
    List.any_nil, Bool.or_false, clearedFrom]

theorem standing_clear : standing (h ++ [(.clear, a)]) = [] := by
  rw [standing, List.filterMap_eq_nil_iff]
  intro i mem
  rw [List.mem_range, List.length_append, List.length_singleton] at mem
  rw [clearedFrom_concat h _ a (by omega), Use.clears, Bool.or_true, if_pos rfl]

theorem standing_concat (keeps : u.clears = false) :
    standing (h ++ [(u, a)]) = standing h ++ (entryAt? (h ++ [(u, a)]) h.length).toList := by
  have last : clearedFrom (h ++ [(u, a)]) h.length = false := by
    rw [clearedFrom_concat h u a (Nat.le_refl _), keeps, clearedFrom, List.drop_length]
    rfl
  rw [standing, List.length_append, List.length_singleton, List.range_succ, List.filterMap_append]
  congr 1
  · refine List.filterMap_congr fun i mem => ?_
    have inside : i < h.length := List.mem_range.1 mem
    rw [clearedFrom_concat h u a (Nat.le_of_lt inside), keeps, Bool.or_false,
      entryAt?_concat h u a inside]
  · rw [List.filterMap_cons, last, List.filterMap_nil]
    cases entryAt? (h ++ [(u, a)]) h.length <;> rfl

theorem entryAt?_last : entryAt? (h ++ [(u, a)]) h.length = u.entry? (owner h) a := by
  rw [entryAt?, List.getElem?_concat_length, List.take_left' rfl]
  rfl

end History

open History

theorem total_eq (r : HookRegistry) : r.total = (HookKind.all.map r.count).sum :=
  (HookLists.sum_lengths r.hooks.distinct).symm

theorem register_owned {r : HookRegistry} {unit : Nat} (owned : r.active = some unit)
    (kind : HookKind) (callback : Callback) :
    r.register kind callback = .ok (r.extend [(kind, ⟨unit, callback⟩)]) := by
  simp only [register, owned, extend_cons, extend_nil]

theorem register_unowned {r : HookRegistry} (unowned : r.active = none) (kind : HookKind)
    (callback : Callback) : r.register kind callback = .error unownedText := by
  rw [register, unowned]

theorem ofId?_id (kind : HookKind) : HookKind.ofId? kind.id = some kind := by
  cases kind <;> rfl

theorem registerById_id (r : HookRegistry) (kind : HookKind) (callback : Callback) :
    r.registerById kind.id callback = r.register kind callback := by
  rw [registerById, ofId?_id]

theorem registerById_unknown (r : HookRegistry) {id : Int}
    (unknown : ∀ kind : HookKind, kind.id ≠ id) (callback : Callback) :
    r.registerById id callback = .error (HookKind.unknownText id) := by
  have none : HookKind.ofId? id = none := by
    rw [HookKind.ofId?, List.find?_eq_none]
    intro kind _
    simpa using unknown kind
  rw [registerById, none]

theorem Follows.count_eq {r : HookRegistry} {log : List (HookKind × HookEntry)}
    (follows : r.Follows log) (kind : HookKind) : r.count kind = (entriesOf kind log).length := by
  rw [HookRegistry.count_eq, follows.snapshot_eq]

theorem Follows.answer_eq {r : HookRegistry} {log : List (HookKind × HookEntry)}
    (follows : r.Follows log) (u : Use) : (r.use u).1 = u.answer r.active log := by
  cases u with
  | setActive | clear => rfl
  | register kind callback =>
    cases active : r.active with
    | none => rw [use, register_unowned active]; rfl
    | some unit => rw [use, register_owned active]; rfl
  | snapshot kind => exact congrArg Answer.entries (follows.snapshot_eq kind)
  | count kind => exact congrArg Answer.number (follows.count_eq kind)
  | total =>
    have counts : r.count = fun kind => (entriesOf kind log).length := funext follows.count_eq
    rw [use, total_eq, counts]
    rfl

inductive Lived : History → HookRegistry → Prop
  | new : Lived [] .empty
  | use {h : History} {r : HookRegistry} (lived : Lived h r) (u : Use) :
      Lived (h ++ [(u, (r.use u).1)]) (r.use u).2

def record (before : History × HookRegistry) (u : Use) : History × HookRegistry :=
  (before.1 ++ [(u, (before.2.use u).1)], (before.2.use u).2)

def recorded (us : List Use) : History × HookRegistry := us.foldl record ([], .empty)

theorem recorded_concat (us : List Use) (u : Use) :
    recorded (us ++ [u]) = record (recorded us) u := List.foldl_append

theorem lived_recorded (us : List Use) : Lived (recorded us).1 (recorded us).2 := by
  induction us using List.reverseRecOn with
  | nil => exact .new
  | append_singleton us u ih =>
    rw [recorded_concat]
    exact ih.use u

theorem uses_recorded (us : List Use) : (recorded us).1.map (·.1) = us := by
  induction us using List.reverseRecOn with
  | nil => rfl
  | append_singleton us u ih =>
    rw [recorded_concat, record, List.map_append, ih]
    rfl

namespace Lived

variable {h : History} {r : HookRegistry}

theorem active_eq (lived : Lived h r) : r.active = owner h := by
  induction lived with
  | new => rfl
  | @use h r lived u ih =>
    rw [owner_concat, ← ih]
    cases u with
    | register kind callback =>
      cases active : r.active with
      | none => rw [HookRegistry.use, register_unowned active]; exact active
      | some unit => rw [HookRegistry.use, register_owned active]; exact active
    | _ => rfl

theorem follows (lived : Lived h r) : r.Follows (standing h) := by
  induction lived with
  | new => exact follows_clear .empty
  | @use h r lived u ih =>
    cases u with
    | clear =>
      rw [standing_clear]
      exact follows_clear r
    | register kind callback =>
      rw [standing_concat h _ _ rfl, entryAt?_last, ← lived.active_eq]
      cases active : r.active with
      | none =>
        rw [HookRegistry.use, register_unowned active]
        exact ih.extend []
      | some unit =>
        rw [HookRegistry.use, register_owned active]
        exact ih.extend [(kind, ⟨unit, callback⟩)]
    | _ =>
      rw [standing_concat h _ _ rfl, entryAt?_last]
      exact ih.extend []

theorem answered (lived : Lived h r) {before after : History} {u : Use} {a : Answer}
    (split : h = before ++ (u, a) :: after) : a = u.answer (owner before) (standing before) := by
  induction lived generalizing after with
  | new => simp at split
  | @use h r lived v ih =>
    rcases List.eq_nil_or_concat after with rfl | ⟨earlier, last, rfl⟩
    · obtain ⟨rfl, same⟩ := List.append_inj' split rfl
      obtain ⟨rfl, rfl⟩ := Prod.mk.inj (List.cons.inj same).1
      rw [lived.follows.answer_eq, lived.active_eq]
    · rw [List.concat_eq_append, ← List.cons_append, ← List.append_assoc] at split
      exact ih (List.append_inj' split rfl).1

end Lived

/-- What holds of a registry after any history. -/
structure Chronicled (h : History) (r : HookRegistry) : Prop where
  owned : r.active = owner h
  /-- Only kinds with an entry have a list. -/
  follows : r.Follows (standing h)
  /-- The callbacks of a kind that were registered since the last clear, in order, each with the
  unit that was the owner at its registration. -/
  listed : ∀ kind, r.snapshot kind = entriesOf kind (standing h)
  counted : ∀ kind, r.count kind = (r.snapshot kind).length
  totalled : r.total = (HookKind.all.map r.count).sum
  /-- A registration succeeds exactly when there is an owner, and adds one entry at the end. -/
  registers : ∀ kind callback r', r.register kind callback = .ok r' ↔
    ∃ unit, r.active = some unit ∧ r' = r.extend [(kind, ⟨unit, callback⟩)]
  refuses : r.active = none → ∀ kind callback,
    r.use (.register kind callback) = (.registered (.error unownedText), r)
  answered : ∀ before u a after, h = before ++ (u, a) :: after →
    a = u.answer (owner before) (standing before)
  previous : ∀ unit, (r.setActive unit).1 = r.active
  restored : ∀ unit, ((r.setActive unit).2.setActive (r.setActive unit).1).2 = r

theorem Lived.chronicled {h : History} {r : HookRegistry} (lived : Lived h r) :
    Chronicled h r where
  owned := lived.active_eq
  follows := lived.follows
  listed := lived.follows.snapshot_eq
  counted := r.count_eq
  totalled := r.total_eq
  registers kind callback r' := by
    cases active : r.active with
    | none => simp [register_unowned active]
    | some unit => simp [register_owned active, eq_comm]
  refuses unowned kind callback := by rw [HookRegistry.use, register_unowned unowned]
  answered _ _ _ _ split := lived.answered split
  previous _ := rfl
  restored _ := rfl

end HookRegistry

namespace Sandbox

open Script (Emission Machine Value)

def hooksDuring (sb : Sandbox) (s : Scene) (m : Machine) : HookRegistry :=
  (sb.receiveAll s m.emissions.reverse).1.hooks

theorem receiveAll_append (sb : Sandbox) (s : Scene) (es more : List Emission) :
    sb.receiveAll s (es ++ more) =
      (sb.receiveAll s es).1.receiveAll (sb.receiveAll s es).2 more := by
  induction es generalizing sb s with
  | nil => rfl
  | cons e rest ih => exact ih _ _

theorem hooksDuring_hook (sb : Sandbox) (s : Scene) {m : Machine} {kind : HookKind} {name : String}
    {given : List Value} {r : HookRegistry}
    (accepted : (sb.hooksDuring s m).register kind ⟨name, given⟩ = .ok r) :
    sb.hooksDuring s { m with emissions := .hook kind name given :: m.emissions } = r := by
  have one (sb : Sandbox) (s : Scene) (accepted : sb.hooks.register kind ⟨name, given⟩ = .ok r) :
      (sb.receiveAll s [.hook kind name given]).1.hooks = r := by
    simp only [receiveAll, receive, accepted]
  rw [hooksDuring, List.reverse_cons, receiveAll_append]
  exact one _ _ accepted

end Sandbox

namespace Script

open Run

variable {env : Env} {m : Machine}

theorem placed_registerHook (id : Int64) (name : String) (given : List Value) (pos : Position) :
    placed pos (registerHook id name given pos) env m =
      match HookKind.ofId? id.toInt with
      | some kind =>
        if env.hasOwner then .ok .unit { m with emissions := .hook kind name given :: m.emissions }
        else thrown HookRegistry.unownedText pos m
      | none => thrown (HookKind.unknownText id.toInt) pos m := by
  unfold registerHook
  cases HookKind.ofId? id.toInt with
  | none => exact placed_thrown _ _ _
  | some kind =>
    have owned (accept refuse : Run Value) :
        placed pos (do if (← read).hasOwner then accept else refuse) env m =
          placed pos (if env.hasOwner then accept else refuse) env m := rfl
    refine (owned _ _).trans ?_
    cases env.hasOwner with
    | true => rfl
    | false => exact placed_thrown _ _ _

theorem callNative_hook_event (provided : env.facilities.hookApi = true) (fuel : Nat) (id : Int64)
    (name : String) (given : List Value) (isConst : Bool) (pos : Position) :
    callNative (fuel + 1) "hook_event" [.int id, .fn name given] isConst pos env m =
      afterTick env m pos
        ((do pure (← placed pos (registerHook id name given pos), none) :
          Run (Value × Option Value)) env) := by
  have found : hostFunction? env "hook_event" [.int id, .fn name given] pos =
      some (.value (registerHook id name given pos)) := by
    simp only [hostFunction?, provided, ↓reduceIte]
  unfold callNative
  dsimp only
  refine run_tick_of fun m' => ?_
  simp only [List.isEmpty_cons, Bool.false_eq_true, ↓reduceIte]
  rw [run_bind, run_read]
  dsimp only
  rw [found]
  rfl

/-- How `hook_event` ends in a run of a sandbox: as the registration in the registry as it is in
the middle of the run. If that succeeds, the call answers nothing, and what it tells the host makes
the registry the new one. If not, it throws the text, and all that the run and the host have stays
as it was. -/
structure EndsLike (sb : Sandbox) (s : Scene) (m : Machine) (pos : Position)
    (call : EStateM.Result Signal Machine (Value × Option Value))
    (outcome : Except String HookRegistry) : Prop where
  accepted : ∀ r, outcome = .ok r → ∃ e, call =
      .ok (.unit, none) { m with emissions := e :: m.emissions } ∧
    sb.hooksDuring s { m with emissions := e :: m.emissions } = r
  refused : ∀ text, outcome = .error text → call = thrown text pos m

theorem registerHook_endsLike {sb : Sandbox} {s : Scene}
    (owned : env.hasOwner = (sb.hooksDuring s m).active.isSome) (id : Int64) (name : String)
    (given : List Value) (pos : Position) :
    EndsLike sb s m pos
      ((do pure (← placed pos (registerHook id name given pos), none) :
        Run (Value × Option Value)) env m)
      ((sb.hooksDuring s m).registerById id.toInt ⟨name, given⟩) := by
  rw [run_bind, placed_registerHook, HookRegistry.registerById]
  cases HookKind.ofId? id.toInt with
  | none => exact ⟨by rintro r ⟨⟩, by rintro text ⟨⟩; rfl⟩
  | some kind =>
    dsimp only
    rw [owned]
    cases active : (sb.hooksDuring s m).active with
    | none =>
      rw [HookRegistry.register_unowned active]
      exact ⟨by rintro r ⟨⟩, by rintro text ⟨⟩; rfl⟩
    | some unit =>
      have accepted := HookRegistry.register_owned active kind ⟨name, given⟩
      refine ⟨?_, by rw [accepted]; rintro text ⟨⟩⟩
      intro r told
      exact ⟨.hook kind name given, rfl, sb.hooksDuring_hook s told⟩

/-- What a call of `hook_event` does in the middle of a run: it registers for the kind of its
number. A call for which the run has no operation left does nothing. -/
structure RegistersById (sb : Sandbox) (s : Scene) (env : Env) (m : Machine) : Prop where
  call : ∀ fuel (id : Int64) name given isConst pos, ∃ ending,
    callNative (fuel + 1) "hook_event" [.int id, .fn name given] isConst pos env m =
      afterTick env m pos (fun _ => ending) ∧
    EndsLike sb s m.counted pos ending ((sb.hooksDuring s m).registerById id.toInt ⟨name, given⟩)
  named : env.program.function? "hook_event" 2 = none →
    ∀ fuel (id : Int64) name given isConst pos,
      callNamed (fuel + 2) "hook_event" [.int id, .fn name given] isConst pos env m =
        callNative (fuel + 1) "hook_event" [.int id, .fn name given] isConst pos env m

theorem registersById {sb : Sandbox} {s : Scene} (provided : env.facilities.hookApi = true)
    (owned : env.hasOwner = (sb.hooksDuring s m).active.isSome) : RegistersById sb s env m where
  call fuel id name given isConst pos := by
    refine ⟨_, ?_, registerHook_endsLike (m := m.counted) owned id name given pos⟩
    exact callNative_hook_event provided fuel id name given isConst pos
  named own fuel id name given isConst pos := callNamed_of_native (by decide) own

end Script

namespace HookRegistry

/-- A registry follows the history of its uses. `hook_event` registers in the registry as it is
when the host has heard what the run has told it so far; for a number that is no kind's this is an
error. -/
theorem registry_follows_history (us : List Use) (h : History) (r : HookRegistry)
    (came : recorded us = (h, r)) :
    h.map (·.1) = us ∧ Chronicled h r ∧
    (∀ (sb : Sandbox) (s : Scene) (env : Script.Env) (m : Script.Machine),
      env.facilities.hookApi = true → env.hasOwner = r.active.isSome → sb.hooksDuring s m = r →
      Script.RegistersById sb s env m) ∧
    (∀ (kind : HookKind) callback, r.registerById kind.id callback = r.register kind callback) ∧
    ∀ id callback, (∀ kind : HookKind, kind.id ≠ id) →
      r.registerById id callback = .error (HookKind.unknownText id) := by
  have lived := lived_recorded us
  have uses := uses_recorded us
  rw [came] at lived uses
  refine ⟨uses, lived.chronicled, ?_, r.registerById_id, ?_⟩
  · intro sb s env m provided owned here
    exact Script.registersById provided (here ▸ owned)
  · intro id callback unknown
    exact r.registerById_unknown unknown callback

def twoOwners : List Use :=
  [.register .update ⟨"early", []⟩, .setActive (some 3), .register .update ⟨"f", []⟩,
    .setActive (some 5), .register .update ⟨"g", []⟩]

def listening (r : HookRegistry) : Sandbox :=
  { Sandbox.ofRules ⟨[], .full, [], true, 0⟩ .empty with hooks := r }

def quietScene : Scene := ⟨⟨#[], Generator.ofSeed 7⟩, .ofCapacity 1, [], none⟩

theorem twoOwners_listed :
    (recorded twoOwners).2.snapshot .update = [⟨3, ⟨"f", []⟩⟩, ⟨5, ⟨"g", []⟩⟩] ∧
      Script.callNative 1 "hook_event" [.int 7, .fn "f" []] false .unknown Script.stockEnv
          Script.seededMachine =
        Script.Run.thrown "unknown hook kind 7" .unknown Script.seededMachine.counted := by
  obtain ⟨-, chronicled, calls, -, unknown⟩ :=
    registry_follows_history twoOwners _ (recorded twoOwners).2 rfl
  constructor
  · exact chronicled.listed .update
  · have registers := calls (listening (recorded twoOwners).2) quietScene Script.stockEnv
      Script.seededMachine rfl rfl rfl
    obtain ⟨ending, call, endsLike⟩ := registers.call 0 7 "f" [] false .unknown
    rw [call, endsLike.refused _ (unknown 7 ⟨"f", []⟩ (by rintro ⟨⟩ <;> decide))]
    rfl

end HookRegistry

end ModHost
