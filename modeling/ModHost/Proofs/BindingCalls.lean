import Mathlib.Data.List.Nodup
import ModHost.Proofs.BindingInstalls
import ModHost.Proofs.HostCalls
import ModHost.Proofs.NameResolution

set_option autoImplicit false

/-!
# Calls of bindings

A binding is called through a pointer to its name. A table is installed when its names are ASCII
identifiers, but the language is more particular about what can be called: it keeps words for
itself, and wants a letter before any digit. A binding whose name it does not take is installed and
can never be called. All others can, with as many values as their arity says, unless the engine has
a function of its own for exactly these values.
-/

namespace ModHost

namespace Script

open Run

/-- A name that the language takes for a function's: no word that it keeps, and a letter before any
digit. -/
structure Callable (name : String) : Prop where
  free : name ∉ Token.keywords ∧ name ∉ Token.reservedWords
  lettered : ∃ c rest, name.toList.dropWhile (· = '_') = c :: rest ∧ c.isAlpha = true

theorem isIdentifier_iff_of_ascii {name : String} (ascii : AsciiIdentifier name) :
    isIdentifier name = true ↔
      ∃ c rest, name.toList.dropWhile (· = '_') = c :: rest ∧ c.isAlpha = true := by
  obtain ⟨first, rest, chars, start, others⟩ := ascii
  have plain : ∀ c ∈ name.toList, c.isAlphanum = true ∨ c = '_' := by
    rw [chars]
    intro c mem
    rcases List.mem_cons.1 mem with rfl | later
    · exact start.imp_left fun letter => by simp [Char.isAlphanum, letter]
    · exact others c later
  unfold isIdentifier
  cases split : name.toList.dropWhile (· = '_') with
  | nil => simp
  | cons c rest =>
    have tail : ∀ d ∈ rest, d.isAlphanum = true ∨ d = '_' := by
      intro d mem
      refine plain d ((List.dropWhile_sublist _).subset (split ▸ List.mem_cons_of_mem c mem))
    simpa using fun _ => tail

theorem not_mark {name : String} (ascii : AsciiIdentifier name) :
    marks.any (·.1 = name) = false := by
  have each : ∀ m ∈ marks, Binding.isIdentifier m.1 = false := by decide
  rw [List.any_eq_false]
  intro m mem same
  have odd := each m mem
  rw [of_decide_eq_true same, Binding.isIdentifier_iff.2 ascii] at odd
  cases odd

theorem functionPointer_eq_ok {name : String} (ascii : AsciiIdentifier name) :
    functionPointer name = .ok (.fn name []) ↔ Callable name := by
  have decided : functionPointer name =
      if Token.keywords.contains name || Token.reservedWords.contains name then
        .error (.syntaxFault (ParseCause.reserved name).message)
      else if isIdentifier name then .ok (.fn name [])
      else .error (.functionNotFound name) := by
    unfold functionPointer
    rw [not_mark ascii, Bool.or_false]
  rw [decided]
  constructor
  · intro pointer
    split at pointer
    · cases pointer
    · next free =>
      split at pointer
      · next proper =>
        exact ⟨by simpa using free, (isIdentifier_iff_of_ascii ascii).1 proper⟩
      · cases pointer
  · rintro ⟨free, lettered⟩
    rw [if_neg (by simpa using free), if_pos ((isIdentifier_iff_of_ascii ascii).2 lettered)]

theorem Callable.ne_of_reserved {name word : String} (callable : Callable name)
    (reserved : word ∈ Token.reservedWords) : name ≠ word := by
  rintro rfl
  exact callable.free.2 reserved

structure Unscripted (env : Env) (name : String) (arity : Nat) : Prop where
  closure : env.program.closure? name = none
  function : env.program.function? name arity = none

/-- The engine has no function of its own, neither of the host nor of a library, that has the name
and takes these values. -/
structure Vacant (env : Env) (name : String) (args : List Value) : Prop where
  host : ∀ pos, hostFunction? env name args pos = none
  items : ∀ xs f given more, args = .array xs :: .fn f given :: more →
    .sequence ∈ env.libraries → isItemOperation name more = false
  entries : ∀ es f given, args = [.map es, .fn f given] →
    .mapping ∈ env.libraries → isEntryOperation name = false
  libraries : ∀ l ∈ env.libraries, l.native? name args = none ∧ l.anyNative? name args = none

variable {env : Env} {m : Machine} {name : String} {args : List Value}

theorem Vacant.withBindings (vacant : Vacant env name args) (t : BindingTable) :
    Vacant { env with bindings := t } name args :=
  ⟨vacant.host, vacant.items, vacant.entries, vacant.libraries⟩

theorem vacant_of_raw (bare : env.libraries = []) (unplayed : env.facilities.proxyApi = false)
    (free : name ∉ hostFunctions) : Vacant env name args where
  host pos := by
    have other : name ≠ "hook_event" ∧ name ≠ "random_range" ∧ name ≠ "is_server" := by
      refine ⟨?_, ?_, ?_⟩ <;> rintro rfl <;> exact free (by decide)
    unfold hostFunction?
    dsimp only
    split <;> simp_all
  items _ _ _ _ _ mem := by simp [bare] at mem
  entries _ _ _ _ mem := by simp [bare] at mem
  libraries l mem := by simp [bare] at mem

/-- How a call of a binding ends that has answered this. -/
def answered (pos : Position) (answer : Except String Value) (m : Machine) :
    EStateM.Result Signal Machine (Value × Option Value) :=
  match answer with
  | .ok v => .ok (v, none) m
  | .error text => thrown text pos m

theorem run_mapM_flat (args : List Value) (env : Env) (m : Machine) :
    (args.mapM flat) env m = .ok (args.map m.content) m := by
  induction args with
  | nil => rfl
  | cons v rest ih =>
    rw [List.mapM_cons, run_bind, run_flat]
    dsimp only
    rw [run_bind, ih]
    rfl

theorem callNative_vacant (vacant : Vacant env name args)
    (other : args = [] → env.bindings.find? name 0 = none) (fuel : Nat) (isConst : Bool)
    (pos : Position) :
    callNative (fuel + 1) name args isConst pos env m = afterTick env m pos fun m =>
      match anyHostFunction? env name args pos with
      | some f => (do pure (← placed pos f.run, none) : Run (Value × Option Value)) env m
      | none => .error (.fault (.raised (.functionNotFound (signature name args)) pos)) m := by
  have exactly : env.libraries.findSome? (·.native? name args) = none :=
    List.findSome?_eq_none_iff.2 fun l mem => (vacant.libraries l mem).1
  have any (p : Library → Bool) :
      (env.libraries.filter p).findSome? (·.anyNative? name args) = none :=
    List.findSome?_eq_none_iff.2 fun l mem =>
      (vacant.libraries l (List.mem_filter.1 mem).1).2
  unfold callNative
  dsimp only
  refine run_tick_of fun m' => ?_
  rw [run_bind, run_read]
  dsimp only
  have first : (if args.isEmpty then env.bindings.find? name 0 else none) = none := by
    cases args with
    | nil => exact other rfl
    | cons => rfl
  rw [first]
  dsimp only
  rw [vacant.host]
  dsimp only
  rw [exactly]
  dsimp only
  rw [any]
  dsimp only
  rw [any]
  have rest : (match anyHostFunction? env name args pos with
      | some f => do pure (← placed pos f.run, none)
      | none => fault (.functionNotFound (signature name args)) pos :
        Run (Value × Option Value)) env m' =
      match anyHostFunction? env name args pos with
      | some f => (do pure (← placed pos f.run, none) : Run (Value × Option Value)) env m'
      | none => .error (.fault (.raised (.functionNotFound (signature name args)) pos)) m' := by
    cases anyHostFunction? env name args pos <;> rfl
  split
  · rw [if_neg (by simpa using vacant.items _ _ _ _ rfl)]
    exact rest
  · rw [if_neg (by simpa using vacant.entries _ _ _ rfl)]
    exact rest
  · exact rest

theorem anyHostFunction?_callable (callable : Callable name) (free : name ∉ hostFunctions)
    (args : List Value) (pos : Position) : anyHostFunction? env name args pos =
      (env.bindings.find? name args.length).map fun b =>
        .value (match b.call args with
          | .ok v => pure v
          | .error text => fault (.thrown (.str text)) pos) := by
  have notLog : name ≠ "log" := by rintro rfl; exact free (by decide)
  have notPrint : name ≠ "print" := callable.ne_of_reserved (by decide)
  have notDebug : name ≠ "debug" := callable.ne_of_reserved (by decide)
  unfold anyHostFunction?
  dsimp only
  split
  · exact absurd rfl notLog
  · cases env.bindings.find? name args.length with
    | some b => rfl
    | none =>
      dsimp only [Option.map_none]
      split
      · rfl
      · split
        · exact absurd rfl notPrint
        · exact absurd rfl notDebug
        · rfl

theorem callNative_bound (callable : Callable name) (free : name ∉ hostFunctions)
    (vacant : args ≠ [] → Vacant env name args) {b : Binding}
    (found : env.bindings.find? name args.length = some b) (fuel : Nat) (isConst : Bool)
    (pos : Position) : callNative (fuel + 1) name args isConst pos env m =
      afterTick env m pos (answered pos (b.call args)) := by
  cases args with
  | nil =>
    unfold callNative
    dsimp only
    refine run_tick_of fun m' => ?_
    rw [run_bind, run_read]
    dsimp only
    have first : (if ([] : List Value).isEmpty then env.bindings.find? name 0 else none) = some b :=
      found
    rw [first]
    dsimp only
    cases b.call [] <;> rfl
  | cons v rest =>
    rw [callNative_vacant (vacant nofun) nofun, anyHostFunction?_callable callable free, found]
    congr 1
    funext m'
    dsimp only [Option.map_some]
    rw [run_bind]
    dsimp only [HostFunction.value]
    cases b.call (v :: rest) with
    | ok value => rfl
    | error text =>
      dsimp only
      rw [placed_thrown]
      rfl

theorem callNative_unbound (callable : Callable name) (free : name ∉ hostFunctions)
    (vacant : Vacant env name args) (absent : env.bindings.find? name args.length = none)
    (fuel : Nat) (isConst : Bool) (pos : Position) :
    callNative (fuel + 1) name args isConst pos env m = afterTick env m pos
      (.error (.fault (.raised (.functionNotFound (signature name args)) pos))) := by
  rw [callNative_vacant vacant (by rintro rfl; exact absent),
    anyHostFunction?_callable callable free, absent]
  rfl

theorem callPointer_unscripted (callable : Callable name)
    (native : Unscripted env name args.length) (fuel : Nat) (pos : Position) :
    callPointer (fuel + 2) name [] args none pos env m =
      callNative fuel name (args.map m.content) false pos env m := by
  unfold callPointer
  rw [run_bind, run_read]
  dsimp only
  rw [List.nil_append, native.closure]
  dsimp only
  rw [native.function]
  dsimp only
  rw [run_bind, run_mapM_flat]
  exact callNamed_of_native (callable.ne_of_reserved (by decide))
    (by rw [List.length_map]; exact native.function)

end Script

namespace BindingTable

variable {t : BindingTable} {b : Binding}

theorem eq_of_name (distinct : (t.map (·.name)).Nodup) (mem : b ∈ t) {c : Binding} (there : c ∈ t)
    (same : c.name = b.name) : c = b := List.inj_on_of_nodup_map distinct there mem same

theorem find?_of_mem (distinct : (t.map (·.name)).Nodup) (mem : b ∈ t) :
    t.find? b.name b.arity = some b := by
  have found : (t.find? b.name b.arity).isSome := List.find?_isSome.2 ⟨b, mem, by simp⟩
  obtain ⟨c, is⟩ := Option.isSome_iff_exists.1 found
  have named := List.find?_some is
  simp only [Bool.and_eq_true, decide_eq_true_eq] at named
  rw [is, eq_of_name distinct mem (List.mem_of_find?_eq_some is) named.1]

theorem find?_other_arity (distinct : (t.map (·.name)).Nodup) (mem : b ∈ t) {arity : Nat}
    (other : arity ≠ b.arity) : t.find? b.name arity = none := by
  refine List.find?_eq_none.2 fun c there named => ?_
  simp only [Bool.and_eq_true, decide_eq_true_eq] at named
  rw [eq_of_name distinct mem there named.1] at named
  exact other named.2.symm

end BindingTable

namespace Script.Env

open Run

/-- How an entry of a table that was installed in an engine is reached through a pointer to its
name. There is a pointer exactly if scripts can call the name. Then a call with as many values as
the entry takes runs it on them, and answers its value or throws its error; a call with another
number finds no function. This is so where nothing else in the engine or the script has the name
for these values. -/
structure Reaches (env : Env) (t : BindingTable) (b : Binding) : Prop where
  pointer : functionPointer b.name = .ok (.fn b.name []) ↔ Callable b.name
  runs : Callable b.name → ∀ (args : List Value) (m : Machine) fuel pos, args.length = b.arity →
    Unscripted env b.name args.length →
    (args ≠ [] → Vacant env b.name (args.map m.content)) →
    callPointer (fuel + 3) b.name [] args none pos (env.install t).2.1 m =
      afterTick (env.install t).2.1 m pos (answered pos (b.call (args.map m.content)))
  finds_none : Callable b.name → ∀ (args : List Value) (m : Machine) fuel pos,
    args.length ≠ b.arity → Unscripted env b.name args.length →
    Vacant env b.name (args.map m.content) → env.bindings.find? b.name args.length = none →
    callPointer (fuel + 3) b.name [] args none pos (env.install t).2.1 m =
      afterTick (env.install t).2.1 m pos
        (.error (.fault (.raised
          (.functionNotFound (signature b.name (args.map m.content))) pos)))

theorem install_reaches (env : Env) (t : BindingTable) {n : Nat}
    (accepted : (env.install t).1 = .ok n) : ∀ b ∈ t, Reaches env t b := by
  intro b mem
  have fits : t.Installable := (((install_all_or_nothing env t).1 n).1 accepted).2
  have free := fits.free b mem
  have engine := (env.install_of_installable fits).2
  have found (arity : Nat) : (env.install t).2.1.bindings.find? b.name arity =
      (t.find? b.name arity).or (env.bindings.find? b.name arity) :=
    (install_all_or_nothing env t).2.1 fits b.name arity
  have native {arity : Nat} (native : Unscripted env b.name arity) :
      Unscripted (env.install t).2.1 b.name arity := engine ▸ ⟨native.closure, native.function⟩
  have vacant {args : List Value} (vacant : Vacant env b.name args) :
      Vacant (env.install t).2.1 b.name args := engine ▸ vacant.withBindings _
  refine ⟨functionPointer_eq_ok (fits.identifiers b mem), ?runs, ?finds_none⟩
  case runs =>
    intro callable args m fuel pos many own leaves
    have reached : (env.install t).2.1.bindings.find? b.name (args.map m.content).length =
        some b := by
      rw [List.length_map, many, found, BindingTable.find?_of_mem fits.distinct mem]
      rfl
    rw [callPointer_unscripted callable (native own)]
    refine callNative_bound callable free (fun some_value => vacant (leaves ?_)) reached fuel _ pos
    simpa using some_value
  case finds_none =>
    intro callable args m fuel pos many own leaves absent
    have unreached : (env.install t).2.1.bindings.find? b.name (args.map m.content).length =
        none := by
      rw [List.length_map, found, BindingTable.find?_other_arity fits.distinct mem many, absent]
      rfl
    rw [callPointer_unscripted callable (native own)]
    exact callNative_unbound callable free (vacant leaves) unreached fuel _ pos

def echo (name : String) (arity : Nat) : Binding := ⟨name, arity, fun args => .ok (.array args)⟩

/-- The language keeps the first name for itself, and the second has no letter. -/
def unreachable : BindingTable := [echo "let" 1, echo "_1" 1]

/-- A table that is installed, and to none of whose entries there is a pointer. -/
theorem unreachable_installed :
    (bare.install unreachable).1 = .ok 2 ∧
      functionPointer "let" = .error (.syntaxFault "'let' is a reserved keyword") ∧
      functionPointer "_1" = .error (.functionNotFound "_1") := by
  refine ⟨rfl, rfl, ?_⟩
  have kept : (Token.keywords.contains "_1" || Token.reservedWords.contains "_1"
      || marks.any (·.1 = "_1")) = false := by decide
  have odd : isIdentifier "_1" = false := by decide
  unfold functionPointer
  rw [kept, odd]
  rfl

def pairing : BindingTable := [echo "pair" 2]

theorem pairing_reached :
    callPointer 3 "pair" [] [.int 1, .str "two"] none .unknown (bare.install pairing).2.1
        seededMachine =
      .ok (.array [.int 1, .str "two"], none) seededMachine.counted := by
  have lettered : "pair".toList.dropWhile (· = '_') = ['p', 'a', 'i', 'r'] := by decide
  have callable : Callable "pair" := ⟨⟨by decide, by decide⟩, _, _, lettered, by decide⟩
  have reaches := install_reaches bare pairing rfl (echo "pair" 2) List.mem_cons_self
  exact reaches.runs callable [.int 1, .str "two"] seededMachine 0 .unknown rfl ⟨rfl, rfl⟩
    fun _ => vacant_of_raw rfl rfl (by decide)

end Script.Env

end ModHost
