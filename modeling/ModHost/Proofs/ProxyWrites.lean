import ModHost.Proofs.EngineLaws
import ModHost.Proofs.FloatWidths
import ModHost.Proofs.ProxyFaults

set_option autoImplicit false

/-!
# Writes through player proxies

A write that succeeds changes one field of one record. Who reads that field of that record, through
whichever proxy and of whichever session, reads what was written, as far as the field keeps it;
every other read is as before. For this the reader and the writer of records, which list the fields
by their names, have to agree on every field, and an integer that is narrowed has to come back.
-/

namespace ModHost

open Script (Value)

namespace FieldValue

theorem narrow_eq_ok (name : String) (low high : Int) (v : FieldValue) (k : Int) :
    v.narrow name low high = .ok k ↔
      ∃ n : Int64, v = .int n ∧ k = n.toInt ∧ low ≤ n.toInt ∧ n.toInt ≤ high := by
  cases v with
  | float x => simp [narrow]
  | int n =>
    simp only [narrow, int.injEq, exists_eq_left']
    by_cases range : low ≤ n.toInt ∧ n.toInt ≤ high
    · simp [range, eq_comm]
    · simp [range]

/-- Of the integers a narrow field takes exactly those that it also gives back. -/
theorem map_narrow_eq_ok {α : Type} {low high : Int} (back : Int → α) (wide : α → Int64)
    (range : ∀ m, low ≤ (wide m).toInt ∧ (wide m).toInt ≤ high)
    (back_wide : ∀ m, back (wide m).toInt = m)
    (wide_back : ∀ n : Int64, low ≤ n.toInt → n.toInt ≤ high → wide (back n.toInt) = n)
    (name : String) (v : FieldValue) (m : α) :
    (v.narrow name low high).map back = .ok m ↔ v = .int (wide m) := by
  constructor
  · intro fits
    cases stored : v.narrow name low high with
    | error e =>
      rw [stored] at fits
      cases fits
    | ok k =>
      rw [stored] at fits
      obtain ⟨n, rfl, rfl, above, below⟩ := (narrow_eq_ok _ _ _ _ _).1 stored
      obtain rfl := Except.ok.inj fits
      rw [wide_back n above below]
  · rintro rfl
    rw [(narrow_eq_ok name low high _ _).2 ⟨wide m, rfl, rfl, range m⟩]
    exact congrArg Except.ok (back_wide m)

theorem narrow8_eq_ok (name : String) (v : FieldValue) (m : Int8) :
    v.narrow8 name = .ok m ↔ v = .int m.toInt64 := by
  refine map_narrow_eq_ok _ _ (fun m => ?_) (fun m => ?_) (fun n above below => ?_) name v m
  · have above := m.le_toInt
    have below := m.toInt_lt
    rw [Int8.toInt_toInt64]
    omega
  · rw [Int8.toInt_toInt64, Int8.ofInt_toInt]
  · apply Int64.toInt_inj.1
    rw [Int8.toInt_toInt64, Int8.toInt_ofInt_of_le (by omega) (by omega)]

theorem narrow16_eq_ok (name : String) (v : FieldValue) (m : Int16) :
    v.narrow16 name = .ok m ↔ v = .int m.toInt64 := by
  refine map_narrow_eq_ok _ _ (fun m => ?_) (fun m => ?_) (fun n above below => ?_) name v m
  · have above := m.le_toInt
    have below := m.toInt_lt
    rw [Int16.toInt_toInt64]
    omega
  · rw [Int16.toInt_toInt64, Int16.ofInt_toInt]
  · apply Int64.toInt_inj.1
    rw [Int16.toInt_toInt64, Int16.toInt_ofInt_of_le (by omega) (by omega)]

theorem toInt_ofNat_toNat (m : UInt32) : (Int64.ofNat m.toNat).toInt = m.toNat := by
  have below := m.toNat_lt
  exact Int64.toInt_ofNat_of_lt (by omega)

theorem narrow32_eq_ok (name : String) (v : FieldValue) (m : UInt32) :
    v.narrow32 name = .ok m ↔ v = .int (Int64.ofNat m.toNat) := by
  refine map_narrow_eq_ok (fun k => UInt32.ofNat k.toNat) (fun m => Int64.ofNat m.toNat)
    (fun m => ?_) (fun m => ?_) (fun n above below => ?_) name v m
  · have below := m.toNat_lt
    rw [toInt_ofNat_toNat]
    omega
  · rw [toInt_ofNat_toNat, Int.toNat_natCast, UInt32.ofNat_toNat]
  · apply Int64.toInt_inj.1
    have fits : n.toInt.toNat < 2 ^ 32 := by omega
    rw [toInt_ofNat_toNat, UInt32.toNat_ofNat_of_lt' fits, Int.toNat_of_nonneg above]

theorem eq_of_taken {α : Type} {take : FieldValue → Except ProxyError α} {wide : α → FieldValue}
    (takes : ∀ v m, take v = .ok m ↔ v = wide m) {m n : α} (same : wide m = wide n) : m = n := by
  have taken := (takes (wide m) m).2 rfl
  rw [(takes (wide m) n).2 same] at taken
  exact (Except.ok.inj taken).symm

end FieldValue

/-- What a field gives back after a value of its type was written: a float only as far as its
narrower width keeps it. -/
def Field.kept (f : Field) (v : Value) : Value :=
  match f.type, v with
  | .float, .int n => .float (widened (narrowed n.toFloat))
  | .float, .float x => .float (widened (narrowed x))
  | _, v => v

theorem Field.kept_widened (f : Field) (x : Float32) :
    f.kept (.float (widened x)) = .float (widened x) := by
  unfold kept
  cases f.type with
  | int => rfl
  | float => exact congrArg (fun y => Value.float (widened y)) (narrowed_widened x)

namespace PlayerState

def part (p : PlayerState) : Field → FieldValue
  | .index => .int (Int64.ofNat p.index.toNat)
  | .health => .int p.health.toInt64
  | .coins => .int p.coins.toInt64
  | .lives => .int p.lives.toInt64
  | .stars => .int p.stars.toInt64
  | .action => .int (Int64.ofNat p.action.toNat)
  | .flags => .int (Int64.ofNat p.flags.toNat)
  | .faceYaw => .int p.faceYaw.toInt64
  | .forwardVel => .float (widened p.forwardVel)
  | .posX => .float (widened p.pos.x)
  | .posY => .float (widened p.pos.y)
  | .posZ => .float (widened p.pos.z)
  | .velX => .float (widened p.vel.x)
  | .velY => .float (widened p.vel.y)
  | .velZ => .float (widened p.vel.z)

theorem readField_name (p : PlayerState) (f : Field) : p.readField f.name = some (p.part f) := by
  cases f <;> rfl

theorem eq_ok_of_map {α : Type} {g : α → PlayerState} {r : Except ProxyError α}
    {p : PlayerState} (done : r.map g = .ok p) : ∃ a, r = .ok a ∧ p = g a := by
  cases r with
  | ok a => exact ⟨a, rfl, (Except.ok.inj done).symm⟩
  | error e => cases done

theorem part_of_write_ne {p q : PlayerState} {f g : Field} {value : FieldValue}
    (written : p.writeField f.name value = .ok q) (other : g ≠ f) : q.part g = p.part g := by
  cases f with
  | index => cases written
  | health | coins | lives | stars | action | flags | faceYaw =>
    obtain ⟨m, -, rfl⟩ := eq_ok_of_map written
    cases g <;> first | rfl | exact absurd rfl other
  | forwardVel | posX | posY | posZ | velX | velY | velZ =>
    obtain rfl := Except.ok.inj written
    cases g <;> first | rfl | exact absurd rfl other

theorem part_of_write {p q : PlayerState} {f : Field} {v : Value} {value : FieldValue}
    (typed : FieldValue.ofValue f v = .ok value)
    (written : p.writeField f.name value = .ok q) : (q.part f).toValue = f.kept v := by
  cases f with
  | index => cases written
  | health | coins | stars | faceYaw =>
    obtain ⟨n, rfl, rfl⟩ := Proxy.eq_int_of_ofValue rfl typed
    obtain ⟨m, fits, rfl⟩ := eq_ok_of_map written
    exact congrArg FieldValue.toValue ((FieldValue.narrow16_eq_ok _ _ m).1 fits).symm
  | lives =>
    obtain ⟨n, rfl, rfl⟩ := Proxy.eq_int_of_ofValue rfl typed
    obtain ⟨m, fits, rfl⟩ := eq_ok_of_map written
    exact congrArg FieldValue.toValue ((FieldValue.narrow8_eq_ok _ _ m).1 fits).symm
  | action | flags =>
    obtain ⟨n, rfl, rfl⟩ := Proxy.eq_int_of_ofValue rfl typed
    obtain ⟨m, fits, rfl⟩ := eq_ok_of_map written
    exact congrArg FieldValue.toValue ((FieldValue.narrow32_eq_ok _ _ m).1 fits).symm
  | forwardVel | posX | posY | posZ | velX | velY | velZ =>
    obtain rfl := Except.ok.inj written
    cases v <;> cases typed <;> rfl

theorem ofValue_part (p : PlayerState) (f : Field) :
    FieldValue.ofValue f (p.part f).toValue = .ok (p.part f) := by
  cases f <;> rfl

theorem writeField_part (p : PlayerState) {f : Field} (writable : f.writable = true) :
    p.writeField f.name (p.part f) = .ok p := by
  cases f with
  | index => cases writable
  | health | coins | stars | faceYaw =>
    simp only [Field.name, writeField, part, (FieldValue.narrow16_eq_ok _ _ _).2 rfl]
    rfl
  | lives =>
    simp only [Field.name, writeField, part, (FieldValue.narrow8_eq_ok _ _ _).2 rfl]
    rfl
  | action | flags =>
    simp only [Field.name, writeField, part, (FieldValue.narrow32_eq_ok _ _ _).2 rfl]
    rfl
  | forwardVel | posX | posY | posZ | velX | velY | velZ =>
    simp only [Field.name, writeField, part, FieldValue.asFloat32, narrowed_widened]

/-- The fields are all that a record consists of. -/
theorem eq_of_part {p q : PlayerState} (alike : ∀ f, p.part f = q.part f) : p = q := by
  have byte {m n : UInt8} (same : FieldValue.int (.ofNat m.toNat) = .int (.ofNat n.toNat)) :
      m = n := by
    have below := m.toNat_lt
    have below' := n.toNat_lt
    have toInts := congrArg Int64.toInt (FieldValue.int.inj same)
    rw [Int64.toInt_ofNat_of_lt (by omega), Int64.toInt_ofNat_of_lt (by omega)] at toInts
    exact UInt8.toNat_inj.1 (by omega)
  have word {m n : UInt32} (same : FieldValue.int (.ofNat m.toNat) = .int (.ofNat n.toNat)) :
      m = n := FieldValue.eq_of_taken (FieldValue.narrow32_eq_ok "") same
  have short {m n : Int16} (same : FieldValue.int m.toInt64 = .int n.toInt64) : m = n :=
    FieldValue.eq_of_taken (FieldValue.narrow16_eq_ok "") same
  have tiny {m n : Int8} (same : FieldValue.int m.toInt64 = .int n.toInt64) : m = n :=
    FieldValue.eq_of_taken (FieldValue.narrow8_eq_ok "") same
  have single {x y : Float32} (same : FieldValue.float (widened x) = .float (widened y)) :
      x = y :=
    widened_inj.1 (FieldValue.float.inj same)
  have vector {v w : Vec3} (x : v.x = w.x) (y : v.y = w.y) (z : v.z = w.z) : v = w := by
    cases v
    cases w
    rw [Vec3.mk.injEq]
    exact ⟨x, y, z⟩
  cases p
  cases q
  rw [mk.injEq]
  exact ⟨byte (alike .index), short (alike .health), short (alike .coins), tiny (alike .lives),
    short (alike .stars), word (alike .action), word (alike .flags), short (alike .faceYaw),
    single (alike .forwardVel),
    vector (single (alike .posX)) (single (alike .posY)) (single (alike .posZ)),
    vector (single (alike .velX)) (single (alike .velY)) (single (alike .velZ))⟩

end PlayerState

namespace Proxy

theorem resolve_eq_ok {kind : ObjectKind} {writing : Bool} {s : Surrounding} {slot : Nat}
    {players : PlayerTable} {p : PlayerState}
    (reached : resolve kind writing s slot = .ok (players, p)) :
    s.sessionLive = true ∧ reach kind writing s.storage = .ok players ∧
      players[slot]? = some p := by
  obtain ⟨_, live, reached⟩ := eq_ok_of_bind reached
  obtain ⟨table, held, reached⟩ := eq_ok_of_bind reached
  obtain ⟨record, found, reached⟩ := eq_ok_of_bind reached
  cases reached
  refine ⟨?_, held, ?_⟩
  · unfold checkSession at live
    split at live
    · assumption
    · cases live
  · unfold recordAt at found
    split at found
    · cases found
      assumption
    · cases found

theorem held_of_reach {kind : ObjectKind} {storage : Storage} {players : PlayerTable}
    (reached : reach kind true storage = .ok players) : storage = .held players := by
  cases storage <;> cases reached
  rfl

theorem recordAt_of_some {players : PlayerTable} {slot : Nat} {p : PlayerState}
    (found : players[slot]? = some p) (kind : ObjectKind) :
    recordAt kind players slot = .ok p := by
  unfold recordAt
  rw [found]

theorem recordAt_of_none {players : PlayerTable} {slot : Nat} (missing : players[slot]? = none)
    (kind : ObjectKind) :
    recordAt kind players slot = .error (.outOfBounds kind slot players.size) := by
  unfold recordAt
  rw [missing]

theorem resolve_live_held (kind : ObjectKind) (writing : Bool) (players : PlayerTable)
    (slot : Nat) :
    resolve kind writing ⟨true, .held players⟩ slot =
      (recordAt kind players slot).map fun p => (players, p) := by
  change (do let p ← recordAt kind players slot; pure (players, p)) = _
  cases recordAt kind players slot <;> rfl

theorem field_name (kind : ObjectKind) (f : Field) : field kind f.name = .ok f := by
  unfold field
  rw [Field.ofName?_name]

theorem set_eq_ok {kind : ObjectKind} {s : Surrounding} {slot : Nat} {name : String} {v : Value}
    {players' : PlayerTable} (written : set kind s slot name v = .ok players') :
    ∃ f value players p p', Field.ofName? name = some f ∧ f.writable = true ∧
      FieldValue.ofValue f v = .ok value ∧ s.sessionLive = true ∧ s.storage = .held players ∧
      players[slot]? = some p ∧ p.writeField f.name value = .ok p' ∧
      players' = players.setIfInBounds slot p' := by
  obtain ⟨f, known, written⟩ := eq_ok_of_bind written
  cases writable : f.writable with
  | false =>
    rw [writable] at written
    cases written
  | true =>
    rw [writable] at written
    obtain ⟨value, typed, written⟩ := eq_ok_of_bind written
    obtain ⟨⟨players, p⟩, reached, written⟩ := eq_ok_of_bind written
    obtain ⟨p', stored, written⟩ := eq_ok_of_bind written
    cases written
    obtain ⟨live, held, found⟩ := resolve_eq_ok reached
    exact ⟨f, value, players, p, p', ofName?_of_field known, writable, typed, live,
      held_of_reach held, found, stored, rfl⟩

theorem get_eq (kind : ObjectKind) (s : Surrounding) (slot : Nat) (f : Field) :
    get kind s slot f.name =
      (resolve kind false s slot).map fun reached => (reached.2.part f).toValue := by
  unfold get
  rw [field_name]
  cases resolved : resolve kind false s slot with
  | error e => rfl
  | ok reached =>
    simp only [bind, Except.bind, PlayerState.readField_name]
    rfl

theorem set_live_held {kind : ObjectKind} {slot : Nat} {players : PlayerTable}
    {p p' : PlayerState} {f : Field} {v : Value} {value : FieldValue}
    (found : players[slot]? = some p) (writable : f.writable = true)
    (typed : FieldValue.ofValue f v = .ok value)
    (stored : p.writeField f.name value = .ok p') :
    set kind ⟨true, .held players⟩ slot f.name v = .ok (players.setIfInBounds slot p') := by
  unfold set
  rw [field_name]
  simp only [bind, Except.bind, writable, Bool.not_true, Bool.false_eq_true, if_false, typed,
    resolve_live_held, recordAt_of_some found, Except.map, stored]
  rfl

/-- A read depends on the table only through the field of the record at the slot, and on whether
there is one. -/
theorem get_held_congr (kind : ObjectKind) (live : Bool) {players players' : PlayerTable}
    {slot : Nat} {f : Field} (size : players'.size = players.size)
    (parts : players'[slot]?.map (·.part f) = players[slot]?.map (·.part f)) :
    get kind ⟨live, .held players'⟩ slot f.name = get kind ⟨live, .held players⟩ slot f.name := by
  cases live with
  | false =>
    rw [get_eq, get_eq]
    rfl
  | true =>
    rw [get_eq, get_eq, resolve_live_held, resolve_live_held]
    cases found : players[slot]? with
    | none =>
      have missing : players.size ≤ slot := Array.getElem?_eq_none_iff.1 found
      have missing' : players'[slot]? = none := Array.getElem?_eq_none (by omega)
      rw [recordAt_of_none found, recordAt_of_none missing', size]
      rfl
    | some p =>
      rw [found] at parts
      obtain ⟨p', found', part⟩ := Option.map_eq_some_iff.1 parts
      rw [recordAt_of_some found, recordAt_of_some found']
      exact congrArg (fun w => Except.ok w.toValue) part

theorem get_unknown {name : String} (unknown : Field.ofName? name = none) (kind : ObjectKind)
    (s : Surrounding) (slot : Nat) :
    get kind s slot name = .error (.unknownField kind name) := by
  unfold get field
  rw [unknown]
  rfl

end Proxy

/-- What a write of a value to a field, through the proxy `a`, does. -/
structure ObjectProxy.Wrote (a : ObjectProxy) (f : Field) (v : Value) (s s' : Surroundings) :
    Prop where
  sessions : s'.live = s.live
  otherTables : ∀ t, t ≠ a.table → s'.storage t = s.storage t
  record : ∃ players p p', s.storage a.table = .held players ∧ players[a.slot]? = some p ∧
    s'.storage a.table = .held (players.setIfInBounds a.slot p') ∧
    ∀ g : Field, g ≠ f → p'.readField g.name = p.readField g.name
  /-- Only proxies of the same record notice, and only at the field. -/
  noticed : ∀ (b : ObjectProxy) name, b.get s' name ≠ b.get s name →
    a.sameTarget b = true ∧ name = f.name
  readBack : ∀ b : ObjectProxy, a.sameTarget b = true → s.live b.session = true →
    b.get s' f.name = .ok (f.kept v)

namespace ObjectProxy

theorem sameTarget_iff (a b : ObjectProxy) :
    a.sameTarget b = true ↔ a.slot = b.slot ∧ a.table = b.table := by
  have kinds : a.kind = b.kind := by
    cases a.kind
    cases b.kind
    rfl
  simp [sameTarget, kinds]

theorem put_self {s : Surroundings} {table : Nat} {players : PlayerTable}
    (held : s.storage table = .held players) : s.put table players = s := by
  have storage : (fun t => if t = table then .held players else s.storage t) = s.storage := by
    funext t
    split
    · next same => rw [same, held]
    · rfl
  rw [Surroundings.put, storage]

theorem around_put_same {b : ObjectProxy} {s : Surroundings} {table : Nat}
    {players : PlayerTable} (same : b.table = table) :
    b.around (s.put table players) = ⟨s.live b.session, .held players⟩ := by
  simp [around, Surroundings.put, same]

theorem around_put_other {b : ObjectProxy} {s : Surroundings} {table : Nat}
    {players : PlayerTable} (other : b.table ≠ table) :
    b.around (s.put table players) = b.around s := by
  simp [around, Surroundings.put, other]

theorem around_held {b : ObjectProxy} {s : Surroundings} {players : PlayerTable}
    (held : s.storage b.table = .held players) :
    b.around s = ⟨s.live b.session, .held players⟩ := by
  rw [around, held]

/-- After one field of one record was written, a read has another result than before only at
that field of that record. -/
theorem noticed_of_put {a b : ObjectProxy} {s : Surroundings} {players : PlayerTable}
    {p p' : PlayerState} {f : Field} {name : String}
    (held : s.storage a.table = .held players) (found : players[a.slot]? = some p)
    (others : ∀ g, g ≠ f → p'.part g = p.part g)
    (differs : b.get (s.put a.table (players.setIfInBounds a.slot p')) name ≠ b.get s name) :
    a.sameTarget b = true ∧ name = f.name := by
  have table : b.table = a.table := Decidable.byContradiction fun other =>
    differs (by rw [get, around_put_other other, get])
  rw [get, get, around_put_same table, around_held (table ▸ held)] at differs
  cases known : Field.ofName? name with
  | none =>
    rw [Proxy.get_unknown known, Proxy.get_unknown known] at differs
    exact absurd rfl differs
  | some g =>
    obtain rfl := Field.name_of_ofName? known
    have parts : (players.setIfInBounds a.slot p')[b.slot]?.map (·.part g) ≠
        players[b.slot]?.map (·.part g) := by
      intro same
      exact differs (Proxy.get_held_congr _ _ Array.size_setIfInBounds same)
    have slot : a.slot = b.slot := Decidable.byContradiction fun other =>
      parts (by rw [Array.getElem?_setIfInBounds_ne other])
    refine ⟨(sameTarget_iff a b).2 ⟨slot, table.symm⟩, ?_⟩
    refine Decidable.byContradiction fun other => parts ?_
    have bound := (Array.getElem?_eq_some_iff.1 found).1
    rw [← slot, found, Array.getElem?_setIfInBounds_self_of_lt bound]
    exact congrArg some (others g fun same => other (congrArg Field.name same))

theorem wrote_of_set {a : ObjectProxy} {s s' : Surroundings} {name : String} {v : Value}
    (done : a.set s name v = (.ok (), s')) :
    ∃ f : Field, f.name = name ∧ f.writable = true ∧ a.Wrote f v s s' := by
  unfold set at done
  split at done
  · next players' written =>
    cases done
    obtain ⟨f, value, players, p, p', known, writable, typed, live, held, found, stored, rfl⟩ :=
      Proxy.set_eq_ok written
    obtain rfl := Field.name_of_ofName? known
    have others (g : Field) (other : g ≠ f) : p'.part g = p.part g :=
      PlayerState.part_of_write_ne stored other
    refine ⟨f, rfl, writable, rfl, fun t other => if_neg other,
      ⟨players, p, p', held, found, if_pos rfl, fun g other => ?_⟩,
      fun b name differs => noticed_of_put held found others differs, fun b same live' => ?_⟩
    · rw [p'.readField_name, p.readField_name, others g other]
    · obtain ⟨slot, table⟩ := (sameTarget_iff a b).1 same
      have bound := (Array.getElem?_eq_some_iff.1 found).1
      have found' : (players.setIfInBounds a.slot p')[a.slot]? = some p' :=
        Array.getElem?_setIfInBounds_self_of_lt bound
      rw [get, around_put_same table.symm, ← slot, Proxy.get_eq, live', Proxy.resolve_live_held,
        Proxy.recordAt_of_some found']
      exact congrArg Except.ok (PlayerState.part_of_write typed stored)
  · cases done

/-- A writable field takes back what it has just given, and nothing has changed. -/
theorem set_of_get {a : ObjectProxy} {s : Surroundings} {f : Field} {players : PlayerTable}
    {v : Value} (writable : f.writable = true) (held : s.storage a.table = .held players)
    (got : a.get s f.name = .ok v) : a.set s f.name v = (.ok (), s) := by
  rw [get, Proxy.get_eq] at got
  cases resolved : Proxy.resolve a.kind false (a.around s) a.slot with
  | error e =>
    rw [resolved] at got
    cases got
  | ok reached =>
    obtain ⟨players', p⟩ := reached
    rw [resolved] at got
    obtain rfl := Except.ok.inj got
    obtain ⟨live, reached, found⟩ := Proxy.resolve_eq_ok resolved
    rw [around_held held] at reached live
    obtain rfl := Except.ok.inj reached
    have slot : players.setIfInBounds a.slot p = players := by
      obtain ⟨bound, rfl⟩ := Array.getElem?_eq_some_iff.1 found
      rw [Array.setIfInBounds, dif_pos bound, Array.set_getElem_self]
    have around : a.around s = ⟨true, .held players⟩ := by
      rw [around_held held, show s.live a.session = true from live]
    rw [set, around, Proxy.set_live_held found writable (p.ofValue_part f)
      (p.writeField_part writable), slot]
    exact congrArg _ (put_self held)

/-- A write that succeeds changes one field of one record, and what it wrote is what every live
proxy of the record reads there. A value that fits the field comes back as it was, which for a float
is one that the narrower width has; so writing back what was read changes nothing. -/
theorem set_changes_one_field (a : ObjectProxy) (s : Surroundings) :
    (∀ name v s', a.set s name v = (.ok (), s') →
      ∃ f : Field, f.name = name ∧ f.writable = true ∧ a.Wrote f v s s') ∧
    (∀ (f : Field) players v, f.writable = true → s.storage a.table = .held players →
      a.get s f.name = .ok v → a.set s f.name v = (.ok (), s)) ∧
    (∀ p q : PlayerState, (∀ f : Field, p.readField f.name = q.readField f.name) → p = q) ∧
    ∀ (f : Field) (x : Float32), f.kept (.float (widened x)) = .float (widened x) := by
  refine ⟨fun name v s' done => wrote_of_set done,
    fun f players v writable held got => set_of_get writable held got, fun p q alike => ?_,
    Field.kept_widened⟩
  refine PlayerState.eq_of_part fun f => ?_
  have read := alike f
  rw [p.readField_name, q.readField_name] at read
  exact Option.some.inj read

/-- A life taken in one session is missed in another one over the same table, and the coins are
not; and the coins that were read can be put back. -/
theorem lives_read_in_other_session :
    let s : Surroundings := ⟨fun _ => true, fun _ => .held #[.fresh 0, .fresh 1]⟩
    let a : ObjectProxy := ⟨.playerState, 0, 1, 4⟩
    let b : ObjectProxy := ⟨.playerState, 0, 1, 5⟩
    ∃ s', a.set s "lives" (.int 3) = (.ok (), s') ∧ b.get s' "lives" = .ok (.int 3) ∧
      b.get s' "coins" = b.get s "coins" ∧ a.set s "coins" (.int 0) = (.ok (), s) ∧
      PlayerState.fresh 257 = .fresh 1 := by
  intro s a b
  obtain ⟨writes, putBack, alike, -⟩ := set_changes_one_field a s
  obtain ⟨f, named, -, wrote⟩ := writes "lives" (.int 3) _ rfl
  have lives : f = .lives := by
    revert named
    cases f <;> decide
  subst lives
  have slotByte : PlayerState.fresh 257 = .fresh 1 := alike _ _ fun f => by cases f <;> rfl
  refine ⟨_, rfl, wrote.readBack b rfl rfl, ?_, putBack .coins _ _ rfl rfl rfl, slotByte⟩
  refine Classical.byContradiction fun differs => ?_
  exact absurd (wrote.noticed b "coins" differs).2 (by decide)

end ObjectProxy

end ModHost
