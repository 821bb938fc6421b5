import ModHost.Json.Reader
import ModHost.Proofs.JsonStrings

set_option autoImplicit false

/-!
# Lists and objects that were written

Lists and objects are written with the same layout: a gap before each item, a comma after each
but the last, and a last gap before the end. Reading one comes down to reading its items. The
loops that read them stop at the first item that cannot be read, or after an item that was left
within a number.
-/

namespace ModHost

namespace JsonReader

variable {α β σ : Type} {env : JsonReading} {c : JsonCursor} {b : UInt8} {l : List UInt8}

/-- The reader ends with the result and leaves these bytes, or fails when there is none. -/
def Settles (r : JsonReader α) (env : JsonReading) (c : JsonCursor) (rest : List UInt8) :
    Option α → Prop
  | some a => Goes r env c a rest
  | none => Fails r env c

theorem Settles.outcome {r : JsonReader α} {out : Option α} (settles : Settles r env c l out) :
    Outcome r env c l out := by
  cases out with
  | some a => exact settles
  | none => exact .inl settles

theorem Goes.bind_settles {r : JsonReader α} {f : α → JsonReader β} {a : α} {out : Option β}
    {rest : List UInt8} (goes : Goes r env c a rest)
    (more : ∀ c', c'.rest = rest → Settles (f a) env c' l out) :
    Settles (r >>= f) env c l out := by
  cases out with
  | some b => exact goes.bind_goes more
  | none => exact goes.bind_fails more

theorem Settles.bind_still {r : JsonReader α} {f : α → JsonReader β} {g : α → Option β}
    {out : Option α} (settles : Settles r env c l out) (still : ∀ a, Still (f a) (g a)) :
    Settles (r >>= f) env c l (out.bind g) := by
  cases out with
  | some a =>
    have second := still a
    change Settles (r >>= f) env c l (g a)
    refine Goes.bind_settles settles fun c' left => ?_
    cases made : g a with
    | some b =>
      rw [made] at second
      exact ⟨c', second env c', left⟩
    | none =>
      rw [made] at second
      exact second env c'
  | none => exact settles.bind

/-- A reader that goes on after a text and refuses what is left of a number. -/
theorem Outcome.bind_settles {r : JsonReader α} {f : α → JsonReader β} {g : α → Option β}
    {out : Option α} {tail : List UInt8} (outcome : Outcome r env c tail out)
    (more : ∀ a c', c'.rest = tail → Settles (f a) env c' l (g a))
    (refuses : ∀ a b rest c', IsNumberByte b → c'.rest = b :: rest → Fails (f a) env c') :
    Settles (r >>= f) env c l (out.bind g) := by
  cases out with
  | some a => exact Goes.bind_settles outcome fun c' left => more a c' left
  | none =>
    obtain fails | ⟨a, b, rest, goes, number⟩ := outcome
    · exact fails.bind
    · exact goes.bind_fails fun c' left => refuses a b rest c' number left

theorem Settles.map {r : JsonReader α} {out : Option α} (settles : Settles r env c l out)
    (f : α → β) : Settles (do pure (f (← r))) env c l (out.map f) := by
  cases out with
  | some a => exact Goes.bind_goes settles fun c' left => ⟨c', rfl, left⟩
  | none => exact settles.bind

theorem IsNumberByte.other (number : IsNumberByte b) :
    isBlank b = false ∧ b ≠ 44 ∧ b ≠ 93 ∧ b ≠ 125 := by
  rcases number with digit | rfl | rfl | rfl | rfl | rfl
  · have apart (a : UInt8) (other : isDigit a = false) : b ≠ a := by
      rintro rfl
      exact Bool.noConfusion (digit.symm.trans other)
    refine ⟨?_, apart 44 rfl, apart 93 rfl, apart 125 rfl⟩
    simp [isBlank, apart 32 rfl, apart 10 rfl, apart 9 rfl, apart 13 rfl]
  all_goals decide

theorem goes_token_first (ink : isBlank b = false) (rest : c.rest = b :: l) :
    Goes token env c (some b) (b :: l) := by
  refine goes_read.bind_goes fun c' same => ?_
  exact goes_skipBlanks env.fuel blanks_nil ink (same.trans rest) (Nat.zero_le _)

theorem goes_moreItems_end {gap : List UInt8} (first : Bool) (blank : Blanks gap)
    (rest : c.rest = gap ++ 93 :: l) (enough : c.rest.length < env.fuel) :
    Goes (moreItems first) env c false (93 :: l) :=
  (goes_token blank (by decide) rest enough).bind_goes fun c' left => ⟨c', rfl, left⟩

theorem goes_moreItems_first {gap : List UInt8} (blank : Blanks gap) (ink : isBlank b = false)
    (other : b ≠ 93) (rest : c.rest = gap ++ b :: l) (enough : c.rest.length < env.fuel) :
    Goes (moreItems true) env c true (b :: l) := by
  refine (goes_token blank ink rest enough).bind_goes fun c' left => ?_
  dsimp only
  rw [if_neg (show b ≠ code ']' from other)]
  exact ⟨c', rfl, left⟩

theorem goes_moreItems_next {gap : List UInt8} (blank : Blanks gap) (ink : isBlank b = false)
    (other : b ≠ 93) (rest : c.rest = 44 :: (gap ++ b :: l))
    (enough : c.rest.length < env.fuel) : Goes (moreItems false) env c true (b :: l) := by
  refine (goes_token_first (by decide) rest).bind_goes
    fun c' left => ?_
  refine Goes.bind_goes (goes_advance left) fun c'' left => ?_
  refine Goes.bind_goes (goes_token blank ink left ?_) fun c'' left => ?_
  · rw [left]
    rw [rest] at enough
    exact Nat.lt_of_succ_lt enough
  · dsimp only
    rw [if_neg (show b ≠ code ']' from other)]
    exact ⟨c'', rfl, left⟩

theorem fails_moreItems (number : IsNumberByte b) (rest : c.rest = b :: l) :
    Fails (moreItems false) env c := by
  obtain ⟨ink, comma, bracket, -⟩ := number.other
  refine (goes_token_first ink rest).bind_fails
    fun c' left => ?_
  dsimp only
  rw [if_neg (show b ≠ code ']' from bracket), if_neg (by decide),
    if_neg (show b ≠ code ',' from comma)]
  exact fails_faultAhead _

theorem goes_moreMembers_end {gap : List UInt8} (first : Bool) (blank : Blanks gap)
    (rest : c.rest = gap ++ 125 :: l) (enough : c.rest.length < env.fuel) :
    Goes (moreMembers first) env c false (125 :: l) :=
  (goes_token blank (by decide) rest enough).bind_goes fun c' left => ⟨c', rfl, left⟩

theorem goes_moreMembers_first {gap : List UInt8} (blank : Blanks gap)
    (rest : c.rest = gap ++ 34 :: l) (enough : c.rest.length < env.fuel) :
    Goes (moreMembers true) env c true (34 :: l) :=
  (goes_token blank (by decide) rest enough).bind_goes fun c' left => ⟨c', rfl, left⟩

theorem goes_moreMembers_next {gap : List UInt8} (blank : Blanks gap)
    (rest : c.rest = 44 :: (gap ++ 34 :: l)) (enough : c.rest.length < env.fuel) :
    Goes (moreMembers false) env c true (34 :: l) := by
  refine (goes_token_first (by decide) rest).bind_goes
    fun c' left => ?_
  refine Goes.bind_goes (goes_advance left) fun c'' left => ?_
  refine Goes.bind_goes (goes_token blank (by decide) left ?_) fun c'' left => ⟨c'', rfl, left⟩
  rw [left]
  rw [rest] at enough
  exact Nat.lt_of_succ_lt enough

theorem fails_moreMembers (number : IsNumberByte b) (rest : c.rest = b :: l) :
    Fails (moreMembers false) env c := by
  obtain ⟨ink, comma, -, brace⟩ := number.other
  refine (goes_token_first ink rest).bind_fails
    fun c' left => ?_
  dsimp only
  rw [if_neg brace, if_neg (by decide), if_neg (show b ≠ code ',' from comma)]
  exact fails_faultAhead _

/-- The text of items, with a gap before each, and a comma before that of each but the first. -/
def itemsText (gap : List UInt8) (text : β → List UInt8) : Bool → List β → List UInt8
  | _, [] => []
  | first, x :: rest =>
    (if first then [] else [44]) ++ gap ++ text x ++ itemsText gap text false rest

theorem stops_itemsText {gap last : List UInt8} {text : β → List UInt8} {xs : List β}
    (breaks : last.head? = some 10) : Stops (itemsText gap text false xs ++ (last ++ l)) := by
  intro b head
  cases xs with
  | nil =>
    cases last with
    | nil => cases breaks
    | cons d last =>
      cases breaks
      cases head
      exact .inr rfl
  | cons x xs =>
    cases head
    exact .inl rfl

theorem goes_moreItems {gap t tail : List UInt8} (first : Bool) (blank : Blanks gap)
    (starts : ∃ b l, t = b :: l ∧ isBlank b = false ∧ b ≠ 93)
    (rest : c.rest = (if first then [] else [44]) ++ gap ++ t ++ tail)
    (enough : c.rest.length < env.fuel) : Goes (moreItems first) env c true (t ++ tail) := by
  obtain ⟨b, l, rfl, ink, other⟩ := starts
  cases first with
  | true =>
    refine goes_moreItems_first blank ink other ?_ enough
    simpa using rest
  | false =>
    refine goes_moreItems_next blank ink other ?_ enough
    simpa using rest

theorem Reads.ink {r : JsonReader α} {depth : Nat} {text : List UInt8} {out : Option α}
    (reads : Reads r depth text out) : 0 < text.length := by
  obtain ⟨b, l, start, -⟩ := reads.starts
  rw [start]
  exact Nat.succ_pos _

theorem settles_items {item : JsonReader α} {gap last : List UInt8} {text : β → List UInt8}
    {out : β → Option α} {xs : List β} {first : Bool} {n : Nat} (blankGap : Blanks gap)
    (blankLast : Blanks last) (breaks : xs ≠ [] → last.head? = some 10)
    (reads : ∀ x ∈ xs, Reads item env.depth (text x) (out x))
    (rest : c.rest = itemsText gap text first xs ++ (last ++ 93 :: l))
    (enough : c.rest.length < env.fuel) (fuel : c.rest.length < n) :
    Settles (items item n first) env c (93 :: l) (xs.mapM out) := by
  induction xs generalizing c first n with
  | nil =>
    cases n with
    | zero => exact absurd fuel (Nat.not_lt_zero _)
    | succ n =>
      exact Goes.bind_goes (goes_moreItems_end first blankLast rest enough)
        fun c' left => ⟨c', rfl, left⟩
  | cons x xs ih =>
    cases n with
    | zero => exact absurd fuel (Nat.not_lt_zero _)
    | succ n =>
      have readsHead := reads x List.mem_cons_self
      have broken := breaks (List.cons_ne_nil x xs)
      obtain ⟨tail, tailText⟩ : ∃ tail,
          tail = itemsText gap text false xs ++ (last ++ 93 :: l) := ⟨_, rfl⟩
      have layout : c.rest = (if first then [] else [44]) ++ gap ++ text x ++ tail := by
        rw [rest, tailText]
        simp only [itemsText, List.append_assoc]
      have more := goes_moreItems first blankGap readsHead.starts layout enough
      have stops : Stops tail := tailText ▸ stops_itemsText broken
      have shorter : (text x).length + tail.length ≤ c.rest.length := by
        rw [layout]
        simp only [List.length_append]
        omega
      have ink := readsHead.ink
      refine Goes.bind_settles more fun c' left => ?_
      simp only [↓reduceIte]
      have fits : c'.rest.length < env.fuel := by
        rw [left, List.length_append]
        omega
      have outcome := readsHead.leads env c' [] tail rfl blanks_nil stops left fits
      rw [List.mapM_cons]
      refine outcome.bind_settles (fun a c'' left' => ?_) fun a b t c'' number left' => ?_
      · have later : Settles (items item n false) env c'' (93 :: l) (xs.mapM out) :=
          ih (fun _ => broken) (fun y hy => reads y (List.mem_cons_of_mem x hy))
            (left'.trans tailText) (by rw [left']; omega) (by rw [left']; omega)
        have mapped := later.map (a :: ·)
        rw [Option.map_eq_bind] at mapped
        exact mapped
      · cases n with
        | zero => omega
        | succ n => exact (fails_moreItems number left').bind.bind

/-- The text of members, each a key and what comes after it, laid out as items are. -/
def membersText (gap : List UInt8) (key : β → String) (text : β → List UInt8) :
    Bool → List β → List UInt8 :=
  itemsText gap fun x => textBytes (Json.stringText (key x)) ++ text x

theorem goes_moreMembers {gap tail : List UInt8} {key : String} (first : Bool)
    (blank : Blanks gap)
    (rest : c.rest =
      (if first then [] else [44]) ++ gap ++ textBytes (Json.stringText key) ++ tail)
    (enough : c.rest.length < env.fuel) :
    Goes (moreMembers first) env c true (textBytes (Json.stringText key) ++ tail) := by
  rw [textBytes_stringText] at rest ⊢
  cases first with
  | true =>
    refine goes_moreMembers_first blank ?_ enough
    simpa using rest
  | false =>
    refine goes_moreMembers_next blank ?_ enough
    simpa using rest

theorem settles_members {member : σ → String → JsonReader σ} {step : σ → β → Option σ}
    {gap last : List UInt8} {key : β → String} {text : β → List UInt8} {xs : List β}
    {first : Bool} {n : Nat} {s : σ} (blankGap : Blanks gap) (blankLast : Blanks last)
    (breaks : xs ≠ [] → last.head? = some 10)
    (reads : ∀ x ∈ xs, ∀ s, Reads (member s (key x)) env.depth (text x) (step s x))
    (rest : c.rest = membersText gap key text first xs ++ (last ++ 125 :: l))
    (enough : c.rest.length < env.fuel) (fuel : c.rest.length < n) :
    Settles (members member n first s) env c (125 :: l) (xs.foldlM step s) := by
  induction xs generalizing c first n s with
  | nil =>
    cases n with
    | zero => exact absurd fuel (Nat.not_lt_zero _)
    | succ n =>
      exact Goes.bind_goes (goes_moreMembers_end first blankLast rest enough)
        fun c' left => ⟨c', rfl, left⟩
  | cons x xs ih =>
    cases n with
    | zero => exact absurd fuel (Nat.not_lt_zero _)
    | succ n =>
      have readsHead := reads x List.mem_cons_self s
      have broken := breaks (List.cons_ne_nil x xs)
      obtain ⟨tail, tailText⟩ : ∃ tail,
          tail = membersText gap key text false xs ++ (last ++ 125 :: l) := ⟨_, rfl⟩
      have layout : c.rest = (if first then [] else [44]) ++ gap ++
          textBytes (Json.stringText (key x)) ++ (text x ++ tail) := by
        rw [rest, tailText]
        simp only [membersText, itemsText, List.append_assoc]
      have more := goes_moreMembers first blankGap layout enough
      have stops : Stops tail := tailText ▸ stops_itemsText broken
      have shorter : (textBytes (Json.stringText (key x))).length +
          ((text x).length + tail.length) ≤ c.rest.length := by
        rw [layout]
        simp only [List.length_append]
        omega
      have ink := readsHead.ink
      refine Goes.bind_settles more fun c' left => ?_
      simp only [↓reduceIte]
      have fits : c'.rest.length < env.fuel := by
        rw [left]
        simp only [List.length_append]
        omega
      refine Goes.bind_settles (goes_string left fits) fun c' left => ?_
      have fits : c'.rest.length < env.fuel := by
        rw [left]
        simp only [List.length_append]
        omega
      have outcome := readsHead.leads env c' [] tail rfl blanks_nil stops left fits
      rw [List.foldlM_cons]
      refine outcome.bind_settles (fun s' c'' left' => ?_) fun s' b t c'' number left' => ?_
      · exact ih (fun _ => broken) (fun y hy => reads y (List.mem_cons_of_mem x hy))
          (left'.trans tailText) (by rw [left']; omega) (by rw [left']; omega)
      · cases n with
        | zero => omega
        | succ n => exact (fails_moreMembers number left').bind

theorem Goes.closing {content : JsonReader α} {close : JsonReader Unit} {a : α}
    {rest : List UInt8} (goes : Goes content env c a rest)
    (closes : ∀ c', c'.rest = rest → Goes close env c' () l) :
    Goes (closing content close) env c a l := by
  refine goes.attempt.bind_goes fun c' left => ?_
  exact (closes c' left).attempt.bind_goes fun c'' left' => ⟨c'', rfl, left'⟩

theorem Fails.closing {content : JsonReader α} {close : JsonReader Unit}
    (fails : Fails content env c) : Fails (closing content close) env c := by
  obtain ⟨e, rest, tried⟩ := fails.attempt
  refine tried.bind_fails fun c' _ => ?_
  obtain ⟨b, c'', ran⟩ : ∃ b c'', JsonReader.attempt close env c' = .ok b c'' := by
    unfold JsonReader.attempt
    split
    · exact ⟨_, _, rfl⟩
    · exact ⟨_, _, rfl⟩
  exact ⟨e, c'', bind_ok ran⟩

theorem Settles.closing {content : JsonReader α} {close : JsonReader Unit} {out : Option α}
    {rest : List UInt8} (settles : Settles content env c rest out)
    (closes : ∀ c', c'.rest = rest → Goes close env c' () l) :
    Settles (closing content close) env c l out := by
  cases out with
  | some a => exact Goes.closing settles closes
  | none => exact Fails.closing settles

/-- A container is not opened inside too many others. -/
theorem settles_nested {r : JsonReader α} {out : Option α} {body : List UInt8}
    (rest : c.rest = b :: body)
    (inner : 1 < env.depth → ∀ c', c'.rest = body →
      Settles r { env with depth := env.depth - 1 } c' l out) :
    Settles (nested r) env c l (if env.depth ≤ 1 then none else out) := by
  refine Goes.bind_settles goes_read fun c' same => ?_
  by_cases shallow : env.depth ≤ 1
  · rw [if_pos shallow, if_pos shallow]
    exact fails_faultAhead _
  · rw [if_neg shallow, if_neg shallow]
    exact Goes.bind_settles (goes_advance (same.trans rest))
      fun c'' left => inner (Nat.not_le.1 shallow) c'' left

theorem goes_endList (rest : c.rest = 93 :: l) : Goes endList env c () l := by
  refine (goes_token_first (by decide) rest).bind_goes fun c' left => ?_
  exact goes_advance left

theorem goes_endObject (rest : c.rest = 125 :: l) : Goes endObject env c () l := by
  refine (goes_token_first (by decide) rest).bind_goes fun c' left => ?_
  exact goes_advance left

theorem settles_list {item : JsonReader α} {gap last : List UInt8} {text : β → List UInt8}
    {out : β → Option α} {xs : List β} (blankGap : Blanks gap) (blankLast : Blanks last)
    (breaks : xs ≠ [] → last.head? = some 10)
    (reads : 1 < env.depth → ∀ x ∈ xs, Reads item (env.depth - 1) (text x) (out x))
    (rest : c.rest = 91 :: (itemsText gap text true xs ++ (last ++ 93 :: l)))
    (enough : c.rest.length < env.fuel) :
    Settles (list item) env c l (if env.depth ≤ 1 then none else xs.mapM out) := by
  refine Goes.bind_settles goes_read fun c' same => ?_
  refine Settles.closing ?_ fun c' left => goes_endList left
  refine settles_nested (same.trans rest) fun deep c'' left => ?_
  rw [rest, List.length_cons, ← left] at enough
  exact settles_items blankGap blankLast breaks (reads deep) left (Nat.lt_of_succ_lt enough)
    (Nat.lt_of_succ_lt enough)

/-- The content of an object is read one container deeper. What is made of the members may be
refused at the end. -/
theorem settles_content {member : σ → String → JsonReader σ} {step : σ → β → Option σ}
    {finish : σ → JsonReader α} {final : σ → Option α} {gap last : List UInt8}
    {key : β → String} {text : β → List UInt8} {xs : List β} {n : Nat} (s : σ)
    (blankGap : Blanks gap) (blankLast : Blanks last) (breaks : xs ≠ [] → last.head? = some 10)
    (reads : 1 < env.depth → ∀ x ∈ xs, ∀ s,
      Reads (member s (key x)) (env.depth - 1) (text x) (step s x))
    (still : ∀ s, Still (finish s) (final s))
    (rest : c.rest = 123 :: (membersText gap key text true xs ++ (last ++ 125 :: l)))
    (enough : c.rest.length < env.fuel) (fuel : c.rest.length < n) :
    Settles (closing (nested (members member n true s >>= finish)) endObject) env c l
      (if env.depth ≤ 1 then none else (xs.foldlM step s).bind final) := by
  refine Settles.closing ?_ fun c' left => goes_endObject left
  refine settles_nested rest fun deep c' left => ?_
  rw [rest, List.length_cons, ← left] at enough fuel
  have made : Settles (members member n true s) { env with depth := env.depth - 1 } c' (125 :: l)
      (xs.foldlM step s) :=
    settles_members blankGap blankLast breaks (reads deep) left (Nat.lt_of_succ_lt enough)
      (Nat.lt_of_succ_lt fuel)
  exact made.bind_still still

/-- An object is read with its members, one container deeper. -/
theorem settles_object {member : σ → String → JsonReader σ} {step : σ → β → Option σ}
    {gap last : List UInt8} {key : β → String} {text : β → List UInt8} {xs : List β} (s : σ)
    (blankGap : Blanks gap) (blankLast : Blanks last) (breaks : xs ≠ [] → last.head? = some 10)
    (reads : 1 < env.depth → ∀ x ∈ xs, ∀ s,
      Reads (member s (key x)) (env.depth - 1) (text x) (step s x))
    (rest : c.rest = 123 :: (membersText gap key text true xs ++ (last ++ 125 :: l)))
    (enough : c.rest.length < env.fuel) :
    Settles (object member s) env c l (if env.depth ≤ 1 then none else xs.foldlM step s) := by
  refine Goes.bind_settles goes_read fun c' same => ?_
  have still (s : σ) : Still (pure s : JsonReader σ) (some s) := fun _ _ => rfl
  have settles := settles_content s blankGap blankLast breaks reads still (same.trans rest)
    (same.symm ▸ enough) (same.symm ▸ enough)
  rw [bind_pure, Option.bind_fun_some] at settles
  exact settles

theorem goes_colon {blanks : List UInt8} (blank : Blanks blanks)
    (rest : c.rest = blanks ++ 58 :: l) (enough : c.rest.length < env.fuel) :
    Goes colon env c () l := by
  refine (goes_token blank (by decide) rest enough).bind_goes fun c' left => ?_
  exact goes_advance left

/-- What comes after the key of a member. -/
theorem reads_colon {r : JsonReader α} {depth : Nat} {text : List UInt8} {out : Option α}
    (reads : Reads r depth text out) :
    Reads (do
      colon
      r) depth (58 :: 32 :: text) out := by
  refine ⟨⟨58, _, rfl, by decide, by decide⟩,
    fun env c blanks tail deep blank stops rest enough => ?_⟩
  rw [List.append_assoc] at rest
  refine (goes_colon blank rest enough).bind_outcome fun c' left => ?_
  refine reads.leads env c' [32] tail deep (List.forall_mem_singleton.2 rfl) stops left ?_
  rw [rest, List.length_append] at enough
  rw [left]
  exact Nat.lt_of_succ_lt (Nat.lt_of_le_of_lt (Nat.le_add_left _ _) enough)

theorem run_settles {r : JsonReader α} {streamed : Bool} {bytes rest : List UInt8}
    {out : Option α}
    (settles : Settles r ⟨streamed, depthLimit, bytes.length + 1⟩ ⟨bytes, 1, 0, false⟩ rest out) :
    (run r streamed bytes).toOption = out := by
  cases out with
  | some a =>
    obtain ⟨c', ran, -⟩ := settles
    rw [run, ran]
    rfl
  | none =>
    obtain ⟨e, c', ran⟩ := settles
    rw [run, ran]
    rfl

theorem goes_endText {tail : List UInt8} (blank : Blanks tail) (rest : c.rest = tail)
    (enough : c.rest.length < env.fuel) : Goes endText env c () [] :=
  (goes_token_nil blank rest enough).bind_goes fun c' left => ⟨c', rfl, left⟩

theorem fails_endText (ink : isBlank b = false) (rest : c.rest = b :: l) :
    Fails endText env c :=
  (goes_token_first ink rest).bind_fails fun _ _ => fails_faultAhead _

/-- What a whole text is read as, when its reader leaves only blanks of it. -/
theorem run_of_outcome {r : JsonReader α} {streamed : Bool} {out : Option α}
    {bytes tail : List UInt8}
    (outcome : Outcome r ⟨streamed, depthLimit, bytes.length + 1⟩ ⟨bytes, 1, 0, false⟩ tail out)
    (blank : Blanks tail) (within : tail.length ≤ bytes.length) :
    (run (do
      let a ← r
      endText
      pure a) streamed bytes).toOption = out := by
  refine run_settles (show Settles _ _ _ [] out from ?_)
  rw [← Option.bind_fun_some out]
  refine outcome.bind_settles (fun a c' left => ?_) fun a b rest c' number left => ?_
  · refine Goes.bind_goes (goes_endText blank left ?_) fun c'' left' => ⟨c'', rfl, left'⟩
    exact left ▸ Nat.lt_succ_of_le within
  · exact (fails_endText number.other.1 left).bind

theorem run_of_reads {r : JsonReader α} {out : Option α} {text tail : List UInt8}
    (streamed : Bool) (reads : Reads r depthLimit text out) (blank : Blanks tail)
    (stops : Stops tail) :
    (run (do
      let a ← r
      endText
      pure a) streamed (text ++ tail)).toOption = out := by
  refine run_of_outcome ?_ blank (List.length_append ▸ Nat.le_add_left _ _)
  exact reads.leads _ _ [] tail rfl blanks_nil stops rfl (Nat.lt_succ_self _)

end JsonReader

end ModHost
