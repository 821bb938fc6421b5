import ModHost.Script.HostFunctions

set_option autoImplicit false

/-!
# Faults of player proxies

Many things can be wrong with an access at once. Here each of them is a complaint about the
access alone, whatever the others find, and the complaints stand in a list in the order in which
they count. An access fails exactly when the list has a complaint, and with the first one.
-/

namespace ModHost

open Script (Value Run Env Machine Position Signal readPlayer writePlayer)

namespace Field

/-- The integers that a field of integers has room for. -/
def nativeRange? : Field → Option (Int × Int)
  | index => some (0, 255)
  | health | coins | stars | faceYaw => some (-32768, 32767)
  | lives => some (-128, 127)
  | action | flags => some (0, 4294967295)
  | forwardVel | posX | posY | posZ | velX | velY | velZ => none

theorem name_of_ofName? {name : String} {f : Field} (found : ofName? name = some f) :
    f.name = name := by
  simpa using List.find?_some found

theorem ofName?_name (f : Field) : ofName? f.name = some f := by
  cases f <;> rfl

theorem nativeRange?_of_int {f : Field} (ints : f.type = .int) :
    ∃ low high, f.nativeRange? = some (low, high) := by
  cases f <;> cases ints <;> exact ⟨_, _, rfl⟩

theorem nativeRange?_of_float {f : Field} (floats : f.type = .float) :
    f.nativeRange? = none := by
  cases f <;> cases floats <;> rfl

end Field

namespace FieldType

def accepts : FieldType → Value → Bool
  | int, .int _ => true
  | float, .int _ => true
  | float, .float _ => true
  | _, _ => false

/-- What a field of the type is said to expect. -/
def wanted : FieldType → String
  | int => "an integer"
  | float => "a number"

end FieldType

namespace PlayerState

theorem readField_isSome (p : PlayerState) (f : Field) : (p.readField f.name).isSome := by
  cases f <;> rfl

theorem writeField_narrow (p : PlayerState) {f : Field} {low high : Int}
    (range : f.nativeRange? = some (low, high)) (writable : f.writable = true) :
    ∃ stored : Int → PlayerState,
      ∀ v, p.writeField f.name v = (v.narrow f.name low high).map stored := by
  cases f with
  | index => cases writable
  | health | coins | stars | faceYaw | lives | action | flags =>
    cases range
    exact ⟨_, fun v => (comp_map _ _ (v.narrow _ _ _)).symm⟩
  | forwardVel | posX | posY | posZ | velX | velY | velZ => cases range

theorem writeField_float (p : PlayerState) {f : Field} (floats : f.type = .float)
    (v : FieldValue) : ∃ p', p.writeField f.name v = .ok p' := by
  cases f <;> cases floats <;> exact ⟨_, rfl⟩

end PlayerState

namespace Proxy

/-- The first complaint of a list. -/
def firstFault (complaints : List (Option ProxyError)) : Option ProxyError :=
  complaints.findSome? id

def unknownField? (kind : ObjectKind) (name : String) : Option ProxyError :=
  if (Field.ofName? name).isSome then none else some (.unknownField kind name)

def readOnly? (kind : ObjectKind) (name : String) : Option ProxyError :=
  (Field.ofName? name).bind fun f => if f.writable then none else some (.readOnly kind name)

def typeMismatch? (name : String) (v : Value) : Option ProxyError :=
  (Field.ofName? name).bind fun f =>
    if f.type.accepts v then none
    else some (.typeMismatch name f.type.wanted v.nativeTypeName)

def staleSession? (kind : ObjectKind) (s : Surrounding) : Option ProxyError :=
  if s.sessionLive then none else some (.staleSession kind)

def released? (kind : ObjectKind) : Storage → Option ProxyError
  | .released => some (.released kind)
  | _ => none

def busy? (kind : ObjectKind) (writing : Bool) : Storage → Option ProxyError
  | .borrowed => some (.busy kind)
  | .lent _ => if writing then some (.busy kind) else none
  | _ => none

def outOfBounds? (kind : ObjectKind) (slot : Nat) : Storage → Option ProxyError
  | .held players | .lent players =>
    if slot < players.size then none else some (.outOfBounds kind slot players.size)
  | _ => none

def outOfRange? (name : String) (v : Value) : Option ProxyError :=
  match (Field.ofName? name).bind Field.nativeRange?, v with
  | some (low, high), .int n =>
    if low ≤ n.toInt ∧ n.toInt ≤ high then none else some (.outOfRange name (toString n.toInt))
  | _, _ => none

/-- What is wrong with reaching a record. -/
def reachFaults (kind : ObjectKind) (writing : Bool) (s : Surrounding) (slot : Nat) :
    List (Option ProxyError) :=
  [staleSession? kind s, released? kind s.storage, busy? kind writing s.storage,
    outOfBounds? kind slot s.storage]

/-- What is wrong with a read. -/
def readFaults (kind : ObjectKind) (s : Surrounding) (slot : Nat) (name : String) :
    List (Option ProxyError) :=
  unknownField? kind name :: reachFaults kind false s slot

/-- What is wrong with a write. -/
def writeFaults (kind : ObjectKind) (s : Surrounding) (slot : Nat) (name : String) (v : Value) :
    List (Option ProxyError) :=
  [unknownField? kind name, readOnly? kind name, typeMismatch? name v] ++
    reachFaults kind true s slot ++ [outOfRange? name v]

theorem firstFault_cons (c : Option ProxyError) (rest : List (Option ProxyError)) :
    firstFault (c :: rest) = c.or (firstFault rest) := by
  cases c <;> rfl

theorem firstFault_append (xs ys : List (Option ProxyError)) :
    firstFault (xs ++ ys) = (firstFault xs).or (firstFault ys) :=
  List.findSome?_append

/-- The computation fails exactly when there is the complaint, and with it. -/
def Reports {α : Type} (r : Except ProxyError α) (complaint : Option ProxyError) : Prop :=
  ∀ e, r = .error e ↔ complaint = some e

variable {α β : Type}

theorem reports_ok (a : α) : Reports (.ok a) none := by
  intro e
  simp

theorem reports_error (e : ProxyError) : Reports (.error e : Except ProxyError α) (some e) := by
  intro e'
  rw [Except.error.injEq, Option.some.injEq]

theorem Reports.bind {r : Except ProxyError α} {f : α → Except ProxyError β}
    {first later : Option ProxyError} (reports : Reports r first)
    (after : ∀ a, r = .ok a → Reports (f a) later) : Reports (r >>= f) (first.or later) := by
  intro e
  cases r with
  | error e' =>
    rw [(reports e').1 rfl]
    exact reports_error e' e
  | ok a =>
    have silent : first = none := by
      cases first with
      | none => rfl
      | some e' => cases (reports e').2 rfl
    rw [silent]
    exact after a rfl e

theorem Reports.map {r : Except ProxyError α} {complaint : Option ProxyError}
    (reports : Reports r complaint) (f : α → β) : Reports (r.map f) complaint := by
  intro e
  rw [← reports e]
  cases r <;> simp [Except.map]

theorem reports_field (kind : ObjectKind) (name : String) :
    Reports (field kind name) (unknownField? kind name) := by
  unfold field unknownField?
  cases Field.ofName? name with
  | none => exact reports_error _
  | some f => exact reports_ok f

theorem ofName?_of_field {kind : ObjectKind} {name : String} {f : Field}
    (found : field kind name = .ok f) : Field.ofName? name = some f := by
  unfold field at found
  split at found
  · cases found
    assumption
  · cases found

theorem reports_ofValue {name : String} {f : Field} (found : Field.ofName? name = some f)
    (v : Value) : Reports (FieldValue.ofValue f v) (typeMismatch? name v) := by
  obtain rfl := Field.name_of_ofName? found
  unfold typeMismatch? FieldValue.ofValue
  rw [found, Option.bind_some]
  cases f.type with
  | int => cases v with
    | int n => exact reports_ok _
    | _ => exact reports_error _
  | float => cases v with
    | int n => exact reports_ok _
    | float x => exact reports_ok _
    | _ => exact reports_error _

theorem eq_int_of_ofValue {f : Field} (ints : f.type = .int) {v : Value} {value : FieldValue}
    (typed : FieldValue.ofValue f v = .ok value) : ∃ n, v = .int n ∧ value = .int n := by
  unfold FieldValue.ofValue at typed
  rw [ints] at typed
  cases v <;> cases typed
  exact ⟨_, rfl, rfl⟩

theorem reports_reach (kind : ObjectKind) (writing : Bool) (storage : Storage) :
    Reports (reach kind writing storage)
      ((released? kind storage).or (busy? kind writing storage)) := by
  cases storage with
  | held players => exact reports_ok players
  | lent players => cases writing with
    | false => exact reports_ok players
    | true => exact reports_error _
  | borrowed => exact reports_error _
  | released => exact reports_error _

theorem reports_recordAt {kind : ObjectKind} {writing : Bool} {storage : Storage}
    {players : PlayerTable} (reached : reach kind writing storage = .ok players) (slot : Nat) :
    Reports (recordAt kind players slot) (outOfBounds? kind slot storage) := by
  have complaint : outOfBounds? kind slot storage =
      if slot < players.size then none else some (.outOfBounds kind slot players.size) := by
    cases storage with
    | held => cases reached; rfl
    | lent => cases writing <;> cases reached; rfl
    | borrowed => cases reached
    | released => cases reached
  unfold recordAt
  rw [complaint]
  by_cases bound : slot < players.size
  · rw [Array.getElem?_eq_getElem bound, if_pos bound]
    exact reports_ok _
  · rw [Array.getElem?_eq_none (Nat.le_of_not_lt bound), if_neg bound]
    exact reports_error _

theorem reports_checkSession (kind : ObjectKind) (s : Surrounding) :
    Reports (checkSession kind s) (staleSession? kind s) := by
  unfold checkSession staleSession?
  cases s.sessionLive with
  | true => exact reports_ok ()
  | false => exact reports_error _

theorem reports_resolve (kind : ObjectKind) (writing : Bool) (s : Surrounding) (slot : Nat) :
    Reports (resolve kind writing s slot) (firstFault (reachFaults kind writing s slot)) := by
  simp only [reachFaults, firstFault_cons]
  refine (reports_checkSession kind s).bind fun _ _ => ?_
  rw [← Option.or_assoc]
  refine (reports_reach kind writing s.storage).bind fun players reached => ?_
  exact (reports_recordAt reached slot).bind fun p _ => reports_ok (players, p)

theorem reports_narrow (name : String) (low high : Int) (n : Int64) :
    Reports ((FieldValue.int n).narrow name low high)
      (if low ≤ n.toInt ∧ n.toInt ≤ high then none
        else some (.outOfRange name (toString n.toInt))) := by
  unfold FieldValue.narrow
  dsimp only
  split
  · exact reports_ok _
  · exact reports_error _

/-- Once the field may be written and the value has its type, all that can be wrong is that the
value does not fit. -/
theorem reports_writeField {f : Field} (writable : f.writable = true) {v : Value}
    {value : FieldValue} (typed : FieldValue.ofValue f v = .ok value) (p : PlayerState) :
    Reports (p.writeField f.name value) (outOfRange? f.name v) := by
  unfold outOfRange?
  rw [Field.ofName?_name, Option.bind_some]
  cases type : f.type with
  | int =>
    obtain ⟨low, high, range⟩ := Field.nativeRange?_of_int type
    obtain ⟨stored, narrowed⟩ := p.writeField_narrow range writable
    obtain ⟨n, rfl, rfl⟩ := eq_int_of_ofValue type typed
    rw [narrowed, range]
    exact (reports_narrow f.name low high n).map stored
  | float =>
    obtain ⟨p', written⟩ := p.writeField_float type value
    rw [written, Field.nativeRange?_of_float type]
    exact reports_ok p'

theorem reports_get (kind : ObjectKind) (s : Surrounding) (slot : Nat) (name : String) :
    Reports (get kind s slot name) (firstFault (readFaults kind s slot name)) := by
  unfold get
  rw [readFaults, firstFault_cons]
  refine (reports_field kind name).bind fun f _ => ?_
  rw [← Option.or_none (o := firstFault _)]
  refine (reports_resolve kind false s slot).bind fun reached _ => ?_
  obtain ⟨v, read⟩ := Option.isSome_iff_exists.1 (reached.2.readField_isSome f)
  dsimp only
  rw [read]
  exact reports_ok _

theorem reports_set (kind : ObjectKind) (s : Surrounding) (slot : Nat) (name : String)
    (v : Value) :
    Reports (set kind s slot name v) (firstFault (writeFaults kind s slot name v)) := by
  unfold set
  simp only [writeFaults, firstFault_append, firstFault_cons, Option.or_assoc]
  refine (reports_field kind name).bind fun f known => ?_
  have found := ofName?_of_field known
  unfold readOnly?
  rw [found, Option.bind_some]
  cases writable : f.writable with
  | false => exact reports_error _
  | true =>
    refine (reports_ofValue found v).bind fun value typed => ?_
    refine (reports_resolve kind true s slot).bind fun reached _ => ?_
    rw [← Field.name_of_ofName? found]
    refine (reports_writeField writable typed reached.2).bind fun p _ => reports_ok _

theorem unknownField?_name (kind : ObjectKind) (f : Field) : unknownField? kind f.name = none := by
  unfold unknownField?
  rw [Field.ofName?_name]
  rfl

theorem get_error_iff_resolve (kind : ObjectKind) (s : Surrounding) (slot : Nat) (f : Field)
    (e : ProxyError) :
    get kind s slot f.name = .error e ↔ resolve kind false s slot = .error e := by
  rw [reports_get kind s slot f.name e, reports_resolve kind false s slot e, readFaults,
    firstFault_cons, unknownField?_name, Option.none_or]

/-- A proxy is valid exactly when all fields can be read. -/
theorem isValid_iff_get (kind : ObjectKind) (s : Surrounding) (slot : Nat) :
    isValid kind s slot = true ↔ ∀ f ∈ kind.fields, ∃ v, get kind s slot f.name = .ok v := by
  unfold isValid
  cases resolved : resolve kind false s slot with
  | ok reached =>
    refine iff_of_true rfl fun f _ => ?_
    cases got : get kind s slot f.name with
    | ok v => exact ⟨v, rfl⟩
    | error e =>
      rw [get_error_iff_resolve, resolved] at got
      cases got
  | error e =>
    refine iff_of_false Bool.false_ne_true fun readable => ?_
    have index : Field.index ∈ kind.fields := by
      cases kind
      exact List.mem_cons_self
    obtain ⟨v, got⟩ := readable .index index
    rw [(get_error_iff_resolve kind s slot .index e).2 resolved] at got
    cases got

/-- How a script meets the refusal of an access. -/
def refusal (e : ProxyError) (pos : Position) : Signal :=
  .fault (.raised (.thrown (.str e.message)) pos)

theorem readPlayer_eq (slot : Nat) (name : String) (pos : Position) (env : Env) (m : Machine) :
    readPlayer slot name pos env m =
      match get .playerState ⟨true, .held m.players⟩ slot name with
      | .ok v => .ok v m
      | .error e => .error (refusal e pos) m := by
  change (match get .playerState ⟨true, .held m.players⟩ slot name with
    | .ok v => (pure v : Run Value)
    | .error e => Script.refused e pos) env m = _
  cases get .playerState ⟨true, .held m.players⟩ slot name <;> rfl

theorem writePlayer_eq (slot : Nat) (name : String) (v : Value) (pos : Position) (env : Env)
    (m : Machine) :
    writePlayer slot name v pos env m =
      match set .playerState ⟨true, .held m.players⟩ slot name v with
      | .ok players => .ok () { m with players := players }
      | .error e => .error (refusal e pos) m := by
  change (match set .playerState ⟨true, .held m.players⟩ slot name v with
    | .ok players => (modify fun m : Machine => { m with players := players } : Run Unit)
    | .error e => Script.refused e pos) env m = _
  cases set .playerState ⟨true, .held m.players⟩ slot name v <;> rfl

/-- An access through a proxy fails exactly when one of its checks does, and with the first that
does; a script that is refused has changed nothing. Of the record itself a proxy meets no fault
but that of a value that does not fit: every field of the schema is one that the record knows,
and every writable one is one that it writes. -/
theorem access_reports_first_fault (kind : ObjectKind) (s : Surrounding) (slot : Nat)
    (name : String) :
    (∀ e, get kind s slot name = .error e ↔
      firstFault (readFaults kind s slot name) = some e) ∧
    (∀ v e, set kind s slot name v = .error e ↔
      firstFault (writeFaults kind s slot name v) = some e) ∧
    (∀ pos env m, readPlayer slot name pos env m =
      match get .playerState ⟨true, .held m.players⟩ slot name with
      | .ok v => .ok v m
      | .error e => .error (refusal e pos) m) ∧
    (∀ v pos env m, writePlayer slot name v pos env m =
      match set .playerState ⟨true, .held m.players⟩ slot name v with
      | .ok players => .ok () { m with players := players }
      | .error e => .error (refusal e pos) m) ∧
    (∀ f ∈ kind.fields, ∀ p : PlayerState, (p.readField f.name).isSome) ∧
    (∀ f ∈ kind.fields, f.writable = true → ∀ v value, FieldValue.ofValue f v = .ok value →
      ∀ (p : PlayerState) e, p.writeField f.name value = .error e ↔
        outOfRange? f.name v = some e) ∧
    (isValid kind s slot = true ↔ ∀ f ∈ kind.fields, ∃ v, get kind s slot f.name = .ok v) :=
  ⟨reports_get kind s slot name, reports_set kind s slot name, readPlayer_eq slot name,
    writePlayer_eq slot name, fun f _ p => p.readField_isSome f,
    fun _ _ writable _ _ typed p => reports_writeField writable typed p,
    isValid_iff_get kind s slot⟩

/-- Nearly everything is wrong with this write, and it is refused for the type of the value; and
a record refuses a value only because it does not fit. -/
theorem write_refused_for_type :
    set .playerState ⟨false, .released⟩ 7 "lives" (.str "many") =
        .error (.typeMismatch "lives" "an integer" "string") ∧
      (PlayerState.fresh 7).writeField "lives" (.int 1000) =
        .error (.outOfRange "lives" "1000") := by
  obtain ⟨-, writes, -, -, -, stored, -⟩ :=
    access_reports_first_fault .playerState ⟨false, .released⟩ 7 "lives"
  have known : Field.lives ∈ ObjectKind.fields .playerState := by decide
  refine ⟨(writes _ _).2 rfl, ?_⟩
  refine (stored .lives known rfl (.int 1000) (.int 1000) rfl (.fresh 7) _).2 ?_
  decide

end Proxy
end ModHost
