import ModHost.Json.Reader

set_option autoImplicit false

/-!
# Reading what was written

How a reader fares on a text that is known to it: what the single steps of a reader do with the
bytes before them, and what it means that a reader makes something of a text, whatever the
text lies in. A text that a reader cannot use need not be a fault at once. A number may be left
before its end, and the fault is then that of the list or object around it.
-/

namespace ModHost

namespace JsonReader

variable {α β : Type}

/-- The reader ends with a result and leaves these bytes. -/
def Goes (r : JsonReader α) (env : JsonReading) (c : JsonCursor) (a : α)
    (rest : List UInt8) : Prop :=
  ∃ c', r env c = .ok a c' ∧ c'.rest = rest

/-- The reader ends with a fault. -/
def Fails (r : JsonReader α) (env : JsonReading) (c : JsonCursor) : Prop :=
  ∃ e c', r env c = .error e c'

theorem bind_ok {r : JsonReader α} {f : α → JsonReader β} {env : JsonReading}
    {c c' : JsonCursor} {a : α} (ran : r env c = .ok a c') : (r >>= f) env c = f a env c' := by
  change EStateM.bind (r env) (fun a => f a env) c = _
  rw [EStateM.bind, ran]

theorem bind_error {r : JsonReader α} {f : α → JsonReader β} {env : JsonReading}
    {c c' : JsonCursor} {e : PlacedFault} (ran : r env c = .error e c') :
    (r >>= f) env c = .error e c' := by
  change EStateM.bind (r env) (fun a => f a env) c = _
  rw [EStateM.bind, ran]

theorem Fails.bind {r : JsonReader α} {f : α → JsonReader β} {env : JsonReading}
    {c : JsonCursor} (fails : Fails r env c) : Fails (r >>= f) env c := by
  obtain ⟨e, c', ran⟩ := fails
  exact ⟨e, c', bind_error ran⟩

theorem Goes.bind_goes {r : JsonReader α} {f : α → JsonReader β} {env : JsonReading}
    {c : JsonCursor} {a : α} {b : β} {rest rest' : List UInt8} (goes : Goes r env c a rest)
    (more : ∀ c', c'.rest = rest → Goes (f a) env c' b rest') : Goes (r >>= f) env c b rest' := by
  obtain ⟨c', ran, left⟩ := goes
  obtain ⟨c'', ran', left'⟩ := more c' left
  exact ⟨c'', (bind_ok ran).trans ran', left'⟩

theorem Goes.bind_fails {r : JsonReader α} {f : α → JsonReader β} {env : JsonReading}
    {c : JsonCursor} {a : α} {rest : List UInt8} (goes : Goes r env c a rest)
    (more : ∀ c', c'.rest = rest → Fails (f a) env c') : Fails (r >>= f) env c := by
  obtain ⟨c', ran, left⟩ := goes
  obtain ⟨e, c'', ran'⟩ := more c' left
  exact ⟨e, c'', (bind_ok ran).trans ran'⟩

variable {env : JsonReading} {c : JsonCursor} {b : UInt8} {l : List UInt8}

theorem goes_read : Goes read env c env c.rest := ⟨c, rfl, rfl⟩

theorem fails_fault (f : JsonFault) : Fails (fault f : JsonReader α) env c := ⟨_, _, rfl⟩

theorem fails_faultAhead (f : JsonFault) : Fails (faultAhead f : JsonReader α) env c :=
  ⟨_, _, rfl⟩

theorem goes_peek (rest : c.rest = b :: l) : Goes peek env c (some b) (b :: l) := by
  obtain ⟨_, line, column, inView⟩ := c
  cases rest
  exact ⟨_, rfl, rfl⟩

theorem goes_peek_nil (rest : c.rest = []) : Goes peek env c none [] := by
  obtain ⟨_, line, column, inView⟩ := c
  cases rest
  exact ⟨_, rfl, rfl⟩

theorem goes_next (rest : c.rest = b :: l) : Goes next env c (some b) l := by
  obtain ⟨_, line, column, inView⟩ := c
  cases rest
  exact ⟨_, rfl, rfl⟩

theorem goes_next_nil (rest : c.rest = []) : Goes next env c none [] := by
  obtain ⟨_, line, column, inView⟩ := c
  cases rest
  exact ⟨_, rfl, rfl⟩

theorem goes_advance (rest : c.rest = b :: l) : Goes advance env c () l := by
  obtain ⟨c', ran, left⟩ : Goes next env c (some b) l := goes_next rest
  exact ⟨c', bind_ok ran, left⟩

/-- Bytes that are passed over between the parts of a document. -/
def Blanks (blanks : List UInt8) : Prop := ∀ b ∈ blanks, isBlank b = true

theorem blanks_nil : Blanks [] := fun _ absent => absurd absent List.not_mem_nil

theorem goes_skipBlanks_blank {a : UInt8} {seen : Option UInt8} {left : List UInt8} {n : Nat}
    (blank : isBlank a = true) (rest : c.rest = a :: l)
    (more : ∀ c' : JsonCursor, c'.rest = l → Goes (skipBlanks n) env c' seen left) :
    Goes (skipBlanks (n + 1)) env c seen left := by
  refine (goes_peek rest).bind_goes fun c' left => ?_
  simp only [blank, ↓reduceIte]
  exact (goes_advance left).bind_goes more

theorem goes_skipBlanks {blanks : List UInt8} (n : Nat) (blank : Blanks blanks)
    (ink : isBlank b = false) (rest : c.rest = blanks ++ b :: l) (enough : blanks.length ≤ n) :
    Goes (skipBlanks n) env c (some b) (b :: l) := by
  induction blanks generalizing n c with
  | nil =>
    cases n with
    | zero => exact goes_peek rest
    | succ n =>
      refine (goes_peek rest).bind_goes fun c' left => ?_
      simp only [ink, Bool.false_eq_true, ↓reduceIte]
      exact ⟨c', rfl, left⟩
  | cons a blanks ih =>
    cases n with
    | zero => simp at enough
    | succ n =>
      refine goes_skipBlanks_blank (blank a List.mem_cons_self) rest fun c' left => ?_
      exact ih n (fun b hb => blank b (List.mem_cons_of_mem a hb)) left (by simpa using enough)

theorem goes_skipBlanks_nil {blanks : List UInt8} (n : Nat) (blank : Blanks blanks)
    (rest : c.rest = blanks) (enough : blanks.length ≤ n) :
    Goes (skipBlanks n) env c none [] := by
  induction blanks generalizing n c with
  | nil =>
    cases n with
    | zero => exact goes_peek_nil rest
    | succ n => exact (goes_peek_nil rest).bind_goes fun c' left => ⟨c', rfl, left⟩
  | cons a blanks ih =>
    cases n with
    | zero => simp at enough
    | succ n =>
      refine goes_skipBlanks_blank (blank a List.mem_cons_self) rest fun c' left => ?_
      exact ih n (fun b hb => blank b (List.mem_cons_of_mem a hb)) left (by simpa using enough)

theorem goes_token {blanks : List UInt8} (blank : Blanks blanks) (ink : isBlank b = false)
    (rest : c.rest = blanks ++ b :: l) (enough : c.rest.length < env.fuel) :
    Goes token env c (some b) (b :: l) := by
  refine goes_read.bind_goes fun c' left => ?_
  refine goes_skipBlanks env.fuel blank ink (left.trans rest) ?_
  rw [rest, List.length_append] at enough
  omega

theorem goes_token_nil {blanks : List UInt8} (blank : Blanks blanks) (rest : c.rest = blanks)
    (enough : c.rest.length < env.fuel) : Goes token env c none [] := by
  refine goes_read.bind_goes fun c' left => ?_
  refine goes_skipBlanks_nil env.fuel blank (left.trans rest) ?_
  rw [← rest]
  omega

theorem goes_valueStart {blanks : List UInt8} (blank : Blanks blanks) (ink : isBlank b = false)
    (rest : c.rest = blanks ++ b :: l) (enough : c.rest.length < env.fuel) :
    Goes valueStart env c b (b :: l) :=
  (goes_token blank ink rest enough).bind_goes fun c' left => ⟨c', rfl, left⟩

theorem goes_ident (word : List Char) (rest : c.rest = word.map code ++ l) :
    Goes (ident word) env c () l := by
  induction word generalizing c with
  | nil => exact ⟨c, rfl, rest⟩
  | cons a word ih =>
    refine (goes_next rest).bind_goes fun c' left => ?_
    simp only [↓reduceIte]
    exact ih left

theorem goes_word {more : String} (rest : c.rest = b :: (more.toList.map code ++ l)) :
    Goes (word more) env c () l :=
  (goes_advance rest).bind_goes fun _ left => goes_ident _ left

/-- What may come after a value that was written: a comma, or the end of a line. -/
def Stops (tail : List UInt8) : Prop := ∀ b ∈ tail.head?, b = 44 ∨ b = 10

theorem stops_nil : Stops [] := fun b absent => absurd absent (Option.not_mem_none b)

/-- A byte of a number, which can neither continue nor end a list or an object. -/
def IsNumberByte (b : UInt8) : Prop :=
  isDigit b = true ∨ b = 43 ∨ b = 45 ∨ b = 46 ∨ b = 69 ∨ b = 101

/-- How a reader ends on a text that something follows. Nothing comes of the text when the
reader fails or stops within a number. -/
def Outcome (r : JsonReader α) (env : JsonReading) (c : JsonCursor) (tail : List UInt8) :
    Option α → Prop
  | some a => Goes r env c a tail
  | none => Fails r env c ∨ ∃ a b rest, Goes r env c a (b :: rest) ∧ IsNumberByte b

theorem Goes.bind_outcome {r : JsonReader α} {f : α → JsonReader β} {a : α} {out : Option β}
    {rest tail : List UInt8} (goes : Goes r env c a rest)
    (more : ∀ c', c'.rest = rest → Outcome (f a) env c' tail out) :
    Outcome (r >>= f) env c tail out := by
  obtain ⟨c', ran, left⟩ := goes
  have second := more c' left
  cases out with
  | some d =>
    obtain ⟨c'', ran', left'⟩ := second
    exact ⟨c'', (bind_ok ran).trans ran', left'⟩
  | none =>
    obtain ⟨e, c'', ran'⟩ | ⟨d, b, rest', ⟨c'', ran', left'⟩, number⟩ := second
    · exact .inl ⟨e, c'', (bind_ok ran).trans ran'⟩
    · exact .inr ⟨d, b, rest', ⟨c'', (bind_ok ran).trans ran', left'⟩, number⟩

/-- What a reader makes of a text inside so many containers, whatever follows it. -/
structure Reads (r : JsonReader α) (depth : Nat) (text : List UInt8) (out : Option α) :
    Prop where
  starts : ∃ b l, text = b :: l ∧ isBlank b = false ∧ b ≠ 93
  leads : ∀ (env : JsonReading) (c : JsonCursor) (blanks tail : List UInt8),
    env.depth = depth → Blanks blanks → Stops tail → c.rest = blanks ++ text ++ tail →
    c.rest.length < env.fuel → Outcome r env c tail out

/-- A reader that goes by the first byte of a value. -/
theorem reads_valueStart {f : UInt8 → JsonReader α} {depth : Nat} {text : List UInt8}
    {out : Option α} (start : text = b :: l) (ink : isBlank b = false) (bracket : b ≠ 93)
    (after : ∀ (env : JsonReading) (c : JsonCursor) (tail : List UInt8), env.depth = depth →
      Stops tail → c.rest = text ++ tail → c.rest.length < env.fuel →
      Outcome (f b) env c tail out) : Reads (valueStart >>= f) depth text out := by
  refine ⟨⟨b, l, start, ink, bracket⟩, fun env c blanks tail deep blank stops rest enough => ?_⟩
  rw [List.append_assoc] at rest
  have layout : c.rest = blanks ++ b :: (l ++ tail) := by
    rw [rest, start]
    rfl
  refine (goes_valueStart blank ink layout enough).bind_outcome fun c' left => ?_
  refine after env c' tail deep stops (left.trans ?_) ?_
  · rw [start]
    rfl
  · rw [layout, List.length_append] at enough
    rw [left]
    exact Nat.lt_of_le_of_lt (Nat.le_add_left _ _) enough

/-- A reader that takes nothing, and gives this or fails. -/
def Still (r : JsonReader α) : Option α → Prop
  | some a => ∀ env c, r env c = .ok a c
  | none => ∀ env c, Fails r env c

theorem Outcome.bind_still {r : JsonReader α} {f : α → JsonReader β} {g : α → Option β}
    {tail : List UInt8} {out : Option α} (first : Outcome r env c tail out)
    (still : ∀ a, Still (f a) (g a)) : Outcome (r >>= f) env c tail (out.bind g) := by
  cases out with
  | some a =>
    have second := still a
    change Outcome (r >>= f) env c tail (g a)
    cases made : g a with
    | some b =>
      rw [made] at second
      exact Goes.bind_goes first fun c' left => ⟨c', second env c', left⟩
    | none =>
      rw [made] at second
      exact .inl (Goes.bind_fails first fun c' _ => second env c')
  | none =>
    obtain fails | ⟨a, b, rest, goes, number⟩ := first
    · exact .inl fails.bind
    · have second := still a
      cases made : g a with
      | some d =>
        rw [made] at second
        exact .inr ⟨d, b, rest, goes.bind_goes fun c' left => ⟨c', second env c', left⟩, number⟩
      | none =>
        rw [made] at second
        exact .inl (goes.bind_fails fun c' _ => second env c')

theorem Reads.bind_still {r : JsonReader α} {f : α → JsonReader β} {g : α → Option β}
    {depth : Nat} {text : List UInt8} {out : Option α} (reads : Reads r depth text out)
    (still : ∀ a, Still (f a) (g a)) : Reads (r >>= f) depth text (out.bind g) where
  starts := reads.starts
  leads _ _ _ _ depth blank stops rest enough :=
    (reads.leads _ _ _ _ depth blank stops rest enough).bind_still still

theorem Reads.map {r : JsonReader α} {depth : Nat} {text : List UInt8} {out : Option α}
    (reads : Reads r depth text out) (f : α → β) :
    Reads (do pure (f (← r))) depth text (out.map f) := by
  rw [Option.map_eq_bind]
  exact reads.bind_still fun a _ _ => rfl

theorem Goes.attempt {r : JsonReader α} {a : α} (goes : Goes r env c a l) :
    Goes (attempt r) env c (.ok a) l := by
  obtain ⟨c', ran, left⟩ := goes
  refine ⟨c', ?_, left⟩
  unfold JsonReader.attempt
  rw [ran]

theorem Fails.attempt {r : JsonReader α} (fails : Fails r env c) :
    ∃ e rest, Goes (attempt r) env c (.error e) rest := by
  obtain ⟨e, c', ran⟩ := fails
  refine ⟨e, c'.rest, c', ?_, rfl⟩
  unfold JsonReader.attempt
  rw [ran]

theorem Goes.placed {r : JsonReader α} {a : α} (goes : Goes r env c a l) :
    Goes (placed r) env c a l :=
  goes.attempt.bind_goes fun c' left => ⟨c', rfl, left⟩

theorem Fails.placed {r : JsonReader α} (fails : Fails r env c) : Fails (placed r) env c := by
  obtain ⟨e, rest, tried⟩ := fails.attempt
  refine tried.bind_fails fun c'' _ => ?_
  dsimp only
  split
  · exact ⟨_, _, rfl⟩
  · exact fails_fault _

theorem Reads.placed {r : JsonReader α} {depth : Nat} {text : List UInt8} {out : Option α}
    (reads : Reads r depth text out) : Reads (placed r) depth text out where
  starts := reads.starts
  leads env c blanks tail depth blank stops rest enough := by
    have outcome := reads.leads env c blanks tail depth blank stops rest enough
    cases out with
    | some a => exact Goes.placed outcome
    | none =>
      obtain fails | ⟨a, b, rest, goes, number⟩ := outcome
      · exact .inl fails.placed
      · exact .inr ⟨a, b, rest, goes.placed, number⟩

end JsonReader

end ModHost
