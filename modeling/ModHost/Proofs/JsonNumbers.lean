import ModHost.Json.Shape
import ModHost.Proofs.NumberTexts

set_option autoImplicit false

/-!
# Numbers that were written

An integer is read back from its decimal digits. A float need not be, since it is put together
from a significand and a power of ten with roundings of its own. What the reader makes of the
text of a float does not depend on what comes after it, though, so it can be told by reading
that text alone.
-/

namespace ModHost

namespace JsonReader

variable {α β : Type} {env : JsonReading} {c : JsonCursor} {b : UInt8} {l text : List UInt8}

/-- Two readings of a text, each with something of its own after it, end alike: with the same
result and the same of the text left, or with faults. -/
inductive Alike (text tail tail' : List UInt8) :
    EStateM.Result PlacedFault JsonCursor α → EStateM.Result PlacedFault JsonCursor α → Prop where
  | goes (a : α) (left : List UInt8) (d d' : JsonCursor) (within : left <:+ text)
      (rest : d.rest = left ++ tail) (rest' : d'.rest = left ++ tail') :
      Alike text tail tail' (.ok a d) (.ok a d')
  | fails (e e' : PlacedFault) (d d' : JsonCursor) :
      Alike text tail tail' (.error e d) (.error e' d')

/-- On this text the two readers end alike, whatever comes after it. -/
def Twins (r r' : JsonReader α) (text : List UInt8) : Prop :=
  ∀ (env env' : JsonReading) (c c' : JsonCursor) (tail tail' : List UInt8),
    Stops tail → Stops tail' → c.rest = text ++ tail → c'.rest = text ++ tail' →
    text.length < env.fuel → text.length < env'.fuel →
    Alike text tail tail' (r env c) (r' env' c')

theorem Alike.within {left tail tail' : List UInt8}
    {x x' : EStateM.Result PlacedFault JsonCursor α} (alike : Alike left tail tail' x x')
    (suffix : left <:+ text) : Alike text tail tail' x x' := by
  cases alike with
  | goes a left' d d' within rest rest' => exact .goes a left' d d' (within.trans suffix) rest rest'
  | fails e e' d d' => exact .fails e e' d d'

/-- A reading that leaves part of a number and one that fails both come to nothing. -/
theorem Alike.outcomes {r r' : JsonReader α} {env env' : JsonReading} {c c' : JsonCursor}
    {tail tail' : List UInt8} (alike : Alike text tail tail' (r env c) (r' env' c'))
    (bytes : ∀ k ∈ text, IsNumberByte k) :
    ∃ out, Outcome r env c tail out ∧ Outcome r' env' c' tail' out := by
  generalize ran : r env c = x at alike
  generalize ran' : r' env' c' = x' at alike
  cases alike with
  | goes a left d d' within rest rest' =>
    cases left with
    | nil => exact ⟨some a, ⟨d, ran, rest⟩, ⟨d', ran', rest'⟩⟩
    | cons k more =>
      have number : IsNumberByte k := bytes k (within.mem List.mem_cons_self)
      exact ⟨none, .inr ⟨a, k, more ++ tail, ⟨d, ran, rest⟩, number⟩,
        .inr ⟨a, k, more ++ tail', ⟨d', ran', rest'⟩, number⟩⟩
  | fails e e' d d' => exact ⟨none, .inl ⟨e, d, ran⟩, .inl ⟨e', d', ran'⟩⟩

theorem twins_pure (a : α) : Twins (pure a) (pure a) text :=
  fun _ _ c c' _ _ _ _ rest rest' _ _ => .goes a text c c' (List.suffix_refl text) rest rest'

theorem twins_fails {r r' : JsonReader α} (fails : ∀ env c, Fails r env c)
    (fails' : ∀ env c, Fails r' env c) : Twins r r' text := by
  intro env env' c c' tail tail' _ _ _ _ _ _
  obtain ⟨e, d, ran⟩ := fails env c
  obtain ⟨e', d', ran'⟩ := fails' env' c'
  rw [ran, ran']
  exact .fails e e' d d'

theorem twins_fault (f f' : JsonFault) : Twins (fault f : JsonReader α) (fault f') text :=
  twins_fails (fun _ _ => fails_fault f) fun _ _ => fails_fault f'

theorem twins_faultAhead (f f' : JsonFault) :
    Twins (faultAhead f : JsonReader α) (faultAhead f') text :=
  twins_fails (fun _ _ => fails_faultAhead f) fun _ _ => fails_faultAhead f'

theorem Still.twins {r : JsonReader α} {out : Option α} (still : Still r out) :
    Twins r r text := by
  cases out with
  | some a =>
    intro env env' c c' tail tail' _ _ rest rest' _ _
    rw [still env c, still env' c']
    exact .goes a text c c' (List.suffix_refl text) rest rest'
  | none => exact twins_fails still still

theorem Twins.bind {r r' : JsonReader α} {f f' : α → JsonReader β} (first : Twins r r' text)
    (more : ∀ a left, left <:+ text → Twins (f a) (f' a) left) :
    Twins (r >>= f) (r' >>= f') text := by
  intro env env' c c' tail tail' stops stops' rest rest' enough enough'
  have alike := first env env' c c' tail tail' stops stops' rest rest' enough enough'
  generalize ran : r env c = x at alike
  generalize ran' : r' env' c' = x' at alike
  cases alike with
  | goes a left d d' within rest rest' =>
    rw [bind_ok ran, bind_ok ran']
    have shorter := within.length_le
    exact (more a left within env env' d d' tail tail' stops stops' rest rest'
      (Nat.lt_of_le_of_lt shorter enough) (Nat.lt_of_le_of_lt shorter enough')).within within
  | fails e e' d d' =>
    rw [bind_error ran, bind_error ran']
    exact .fails e e' d d'

theorem twins_read_bind {f f' : JsonReading → JsonReader β}
    (more : ∀ env env' : JsonReading, text.length < env.fuel → text.length < env'.fuel →
      Twins (f env) (f' env') text) : Twins (read >>= f) (read >>= f') text :=
  fun env env' c c' tail tail' stops stops' rest rest' enough enough' =>
    more env env' enough enough' env env' c c' tail tail' stops stops' rest rest' enough enough'

/-- What a reader sees where a text ends: nothing, or what may come after a value. -/
def IsStop (seen : Option UInt8) : Prop := seen = none ∨ seen = some 44 ∨ seen = some 10

theorem Stops.isStop {tail : List UInt8} (stops : Stops tail) : IsStop tail.head? := by
  cases tail with
  | nil => exact .inl rfl
  | cons b l =>
    rcases stops b rfl with rfl | rfl
    · exact .inr (.inl rfl)
    · exact .inr (.inr rfl)

theorem goes_peek_head {tail : List UInt8} (rest : c.rest = tail) :
    Goes peek env c tail.head? tail := by
  cases tail with
  | nil => exact goes_peek_nil rest
  | cons b l => exact goes_peek rest

theorem goes_next_head {tail : List UInt8} (rest : c.rest = tail) :
    Goes next env c tail.head? tail.tail := by
  cases tail with
  | nil => exact goes_next_nil rest
  | cons b l => exact goes_next rest

/-- What is the same for nothing, a comma and the end of a line is the same for every stop. -/
theorem IsStop.same {γ : Type} {f : Option UInt8 → γ} {seen : Option UInt8} (stop : IsStop seen)
    (comma : f (some 44) = f none) (line : f (some 10) = f none) : f seen = f none := by
  rcases stop with rfl | rfl | rfl
  · rfl
  · exact comma
  · exact line

/-- Looking ahead, when what may come after the text is taken for nothing. -/
theorem twins_peek_bind {f f' : Option UInt8 → JsonReader β}
    (comma : f (some 44) = f none ∧ f' (some 44) = f' none)
    (line : f (some 10) = f none ∧ f' (some 10) = f' none)
    (ends : Twins (f none) (f' none) text)
    (more : ∀ b l, text = b :: l → Twins (f (some b)) (f' (some b)) text) :
    Twins (peek >>= f) (peek >>= f') text := by
  intro env env' c c' tail tail' stops stops' rest rest' enough enough'
  obtain ⟨d, ran, left⟩ : Goes peek env c _ _ := goes_peek_head rest
  obtain ⟨d', ran', left'⟩ : Goes peek env' c' _ _ := goes_peek_head rest'
  rw [bind_ok ran, bind_ok ran']
  cases text with
  | nil =>
    rw [List.nil_append, List.nil_append, stops.isStop.same comma.1 line.1,
      stops'.isStop.same comma.2 line.2]
    exact ends env env' d d' tail tail' stops stops' left left' enough enough'
  | cons b l => exact more b l rfl env env' d d' tail tail' stops stops' left left' enough enough'

/-- Taking a byte, when there is none to take at the end. -/
theorem twins_next_bind {f f' : Option UInt8 → JsonReader β}
    (ends : text = [] → ∀ seen, IsStop seen → ∀ env c, Fails (f seen) env c ∧ Fails (f' seen) env c)
    (more : ∀ b l, text = b :: l → Twins (f (some b)) (f' (some b)) l) :
    Twins (next >>= f) (next >>= f') text := by
  intro env env' c c' tail tail' stops stops' rest rest' enough enough'
  cases text with
  | nil =>
    obtain ⟨d, ran, -⟩ : Goes next env c _ _ := goes_next_head rest
    obtain ⟨d', ran', -⟩ : Goes next env' c' _ _ := goes_next_head rest'
    rw [bind_ok ran, bind_ok ran']
    obtain ⟨e, d, ran⟩ := (ends rfl _ stops.isStop env d).1
    obtain ⟨e', d', ran'⟩ := (ends rfl _ stops'.isStop env' d').2
    rw [List.nil_append, List.nil_append, ran, ran']
    exact .fails e e' d d'
  | cons b l =>
    obtain ⟨d, ran, left⟩ : Goes next env c (some b) (l ++ tail) := goes_next rest
    obtain ⟨d', ran', left'⟩ : Goes next env' c' (some b) (l ++ tail') := goes_next rest'
    rw [bind_ok ran, bind_ok ran']
    exact (more b l rfl env env' d d' tail tail' stops stops' left left'
      (Nat.lt_of_succ_lt enough) (Nat.lt_of_succ_lt enough')).within (List.suffix_cons b l)

theorem twins_advance_bind {f f' : Unit → JsonReader β} (more : Twins (f ()) (f' ()) l) :
    Twins (advance >>= f) (advance >>= f') (b :: l) := by
  have flat (g : Unit → JsonReader β) : (advance >>= g) = next >>= fun _ => g () := by
    rw [advance, bind_assoc]
    simp only [pure_bind]
  rw [flat, flat]
  refine twins_next_bind (fun ends => absurd ends (List.cons_ne_nil b l)) fun d k same => ?_
  cases same
  exact more

theorem twins_peekDigit_bind {f f' : Option Nat → JsonReader β}
    (other : Twins (f none) (f' none) text)
    (digit : ∀ b l, text = b :: l → isDigit b = true →
      Twins (f (some (digitOf b))) (f' (some (digitOf b))) text) :
    Twins (peekDigit >>= f) (peekDigit >>= f') text := by
  have flat (g : Option Nat → JsonReader β) :
      (peekDigit >>= g) = peek >>= fun seen => g (seen.bind fun b =>
        if isDigit b then some (digitOf b) else none) := by
    rw [peekDigit, bind_assoc]
    congr 1
    funext seen
    cases seen with
    | none => rw [pure_bind]; rfl
    | some b => rw [pure_bind]; rfl
  rw [flat, flat]
  refine twins_peek_bind ⟨rfl, rfl⟩ ⟨rfl, rfl⟩ other fun b l same => ?_
  rw [Option.bind_some]
  by_cases is : isDigit b = true
  · rw [if_pos is]
    exact digit b l same is
  · rw [if_neg is]
    exact other

/-- Induction on a text for two loops that have fuel for each of its bytes and for its end. -/
theorem fuelled {motive : List UInt8 → Nat → Nat → Prop}
    (ends : ∀ n n', motive [] (n + 1) (n' + 1))
    (goesOn : ∀ b l n n', motive l n n' → motive (b :: l) (n + 1) (n' + 1)) {n n' : Nat}
    (enough : text.length < n) (enough' : text.length < n') : motive text n n' := by
  induction text generalizing n n' with
  | nil =>
    obtain ⟨m, rfl⟩ := Nat.exists_eq_add_of_lt enough
    obtain ⟨m', rfl⟩ := Nat.exists_eq_add_of_lt enough'
    exact ends _ _
  | cons b l ih =>
    cases n with
    | zero => exact absurd enough (Nat.not_lt_zero _)
    | succ n =>
      cases n' with
      | zero => exact absurd enough' (Nat.not_lt_zero _)
      | succ n' =>
        exact goesOn b l n n' (ih (Nat.lt_of_succ_lt_succ enough) (Nat.lt_of_succ_lt_succ enough'))

theorem twins_skipDigits {n n' : Nat} (k : Nat) (enough : text.length < n)
    (enough' : text.length < n') : Twins (skipDigits n k) (skipDigits n' k) text := by
  refine fuelled (motive := fun text n n' => ∀ k, Twins (skipDigits n k) (skipDigits n' k) text)
    (fun n n' k => ?ends) (fun b l n n' ih k => ?goesOn) enough enough' k
  case ends => exact twins_peekDigit_bind (twins_pure k) fun b l absent => nomatch absent
  case goesOn =>
    refine twins_peekDigit_bind (twins_pure k) fun b' l' same digit => ?_
    exact twins_advance_bind (ih (k + 1))

theorem twins_exponentDigits {n n' : Nat} (k : Nat) (enough : text.length < n)
    (enough' : text.length < n') : Twins (exponentDigits n k) (exponentDigits n' k) text := by
  refine fuelled
    (motive := fun text n n' => ∀ k, Twins (exponentDigits n k) (exponentDigits n' k) text)
    (fun n n' k => ?ends) (fun b l n n' ih k => ?goesOn) enough enough' k
  case ends => exact twins_peekDigit_bind (twins_pure _) fun b l absent => nomatch absent
  case goesOn =>
    refine twins_peekDigit_bind (twins_pure _) fun b' l' same digit => ?_
    refine twins_advance_bind ?_
    split
    · exact twins_pure _
    · exact ih _

theorem twins_fractionDigits {n n' : Nat} (s k : Nat) (enough : text.length < n)
    (enough' : text.length < n') :
    Twins (fractionDigits n s k) (fractionDigits n' s k) text := by
  refine fuelled
    (motive := fun text n n' => ∀ s k, Twins (fractionDigits n s k) (fractionDigits n' s k) text)
    (fun n n' s k => ?ends) (fun b l n n' ih s k => ?goesOn) enough enough' s k
  case ends => exact twins_peekDigit_bind (twins_pure _) fun b l absent => nomatch absent
  case goesOn =>
    refine twins_peekDigit_bind (twins_pure _) fun b' l' same digit => ?_
    dsimp only
    split
    · exact twins_pure _
    · exact twins_advance_bind (ih _ _)

theorem still_scale (n : Nat) (x : Float) (e : Int) : ∃ out, Still (scale n x e) out := by
  induction n generalizing x e with
  | zero => exact ⟨some 0, fun _ _ => rfl⟩
  | succ n ih =>
    rw [scale]
    split
    · split
      · dsimp only
        split
        · exact ⟨none, fun _ _ => fails_fault _⟩
        · exact ⟨some _, fun _ _ => rfl⟩
      · exact ⟨some _, fun _ _ => rfl⟩
    · split
      · exact ⟨some _, fun _ _ => rfl⟩
      · split
        · exact ⟨none, fun _ _ => fails_fault _⟩
        · exact ih _ _

theorem twins_floatOfParts (positive : Bool) (s : Nat) (e : Int) :
    Twins (floatOfParts positive s e) (floatOfParts positive s e) text := by
  obtain ⟨out, still⟩ := still_scale 4 (UInt64.ofNat s).toFloat e
  exact still.twins.bind fun _ _ _ => twins_pure _

theorem twins_exponentSign : Twins exponentSign exponentSign text := by
  refine twins_peek_bind ⟨rfl, rfl⟩ ⟨rfl, rfl⟩ (twins_pure false) fun b l same => ?_
  subst same
  split
  · exact twins_advance_bind (twins_pure false)
  · exact twins_advance_bind (twins_pure true)
  · exact twins_pure false

theorem twins_exponentPart (positive : Bool) (s : Nat) (start : Int) :
    Twins (exponentPart positive s start) (exponentPart positive s start) (b :: l) := by
  refine twins_advance_bind (twins_exponentSign.bind fun negative text _ => ?_)
  refine twins_next_bind (fun _ seen stop env c => ?_) fun d text _ => ?_
  · rcases stop with rfl | rfl | rfl <;> exact ⟨fails_fault _, fails_fault _⟩
  · dsimp only
    split
    · exact twins_fault _ _
    · refine twins_read_bind fun env env' enough enough' => ?_
      refine (twins_exponentDigits _ enough enough').bind fun grown text _ => ?_
      cases grown with
      | some n => exact twins_floatOfParts _ _ _
      | none =>
        dsimp only
        split
        · exact twins_fault _ _
        · refine twins_read_bind fun env env' enough enough' => ?_
          exact (twins_skipDigits 0 enough enough').bind fun _ _ _ => twins_pure _

theorem twins_ifExponent {f f' g g' : JsonReader β}
    (exponent : ∀ b l, text = b :: l → Twins f f' text) (other : Twins g g' text) :
    Twins (do if isExponentLetter (← peek) then f else g)
      (do if isExponentLetter (← peek) then f' else g') text := by
  refine twins_peek_bind ⟨rfl, rfl⟩ ⟨rfl, rfl⟩ other fun b l same => ?_
  split
  · exact exponent b l same
  · exact other

theorem twins_afterFraction (positive : Bool) (s : Nat) (e : Int) :
    Twins (afterFraction positive s e) (afterFraction positive s e) text := by
  refine twins_ifExponent (fun b l same => ?_) (twins_floatOfParts _ _ _)
  subst same
  exact twins_exponentPart _ _ _

theorem twins_fractionPart (positive : Bool) (s : Nat) (e : Int) :
    Twins (fractionPart positive s e) (fractionPart positive s e) (b :: l) := by
  refine twins_advance_bind (twins_read_bind fun env env' enough enough' => ?_)
  refine (twins_fractionDigits s 0 enough enough').bind fun ⟨s', count, full⟩ text within => ?_
  have shorter := within.length_le
  cases full with
  | true =>
    refine (twins_skipDigits 0 (Nat.lt_of_le_of_lt shorter enough)
      (Nat.lt_of_le_of_lt shorter enough')).bind fun _ _ _ => ?_
    exact twins_afterFraction _ _ _
  | false =>
    dsimp only
    split
    · contradiction
    · split
      · refine twins_fails (fun env c => ?_) fun env c => ?_
        all_goals
          refine (goes_peek_head rfl).bind_fails fun c' left => ?_
          cases c.rest with
          | nil => exact fails_faultAhead _
          | cons b l => exact fails_faultAhead _
      · exact twins_afterFraction _ _ _

theorem twins_parts {f f' g g' h h' : JsonReader β}
    (fraction : ∀ b l, text = b :: l → Twins f f' text)
    (exponent : ∀ b l, text = b :: l → Twins g g' text) (other : Twins h h' text) :
    Twins (do
        let b ← peek
        if b = some (code '.') then f else if isExponentLetter b then g else h)
      (do
        let b ← peek
        if b = some (code '.') then f' else if isExponentLetter b then g' else h') text := by
  refine twins_peek_bind ⟨rfl, rfl⟩ ⟨rfl, rfl⟩ other fun b l same => ?_
  split
  · exact fraction b l same
  · split
    · exact exponent b l same
    · exact other

theorem twins_afterInteger (positive : Bool) (s : Nat) :
    Twins (afterInteger positive s) (afterInteger positive s) text := by
  refine twins_parts (fun b l same => ?_) (fun b l same => ?_) ?_
  · subst same
    exact (twins_fractionPart _ _ _).bind fun _ _ _ => twins_pure _
  · subst same
    exact (twins_exponentPart _ _ _).bind fun _ _ _ => twins_pure _
  · split
    · exact twins_pure _
    · split
      · exact twins_pure _
      · exact twins_pure _

theorem twins_longInteger (positive : Bool) (s : Nat) :
    Twins (longInteger positive s) (longInteger positive s) text := by
  refine twins_read_bind fun env env' enough enough' => ?_
  refine (twins_skipDigits 0 enough enough').bind fun dropped text _ => ?_
  refine twins_parts (fun b l same => ?_) (fun b l same => ?_) ?_
  · subst same
    exact (twins_fractionPart _ _ _).bind fun _ _ _ => twins_pure _
  · subst same
    exact (twins_exponentPart _ _ _).bind fun _ _ _ => twins_pure _
  · exact (twins_floatOfParts _ _ _).bind fun _ _ _ => twins_pure _

theorem twins_integerDigits (positive : Bool) {n n' : Nat} (s : Nat) (enough : text.length < n)
    (enough' : text.length < n') :
    Twins (integerDigits positive n s) (integerDigits positive n' s) text := by
  refine fuelled
    (motive := fun text n n' =>
      ∀ s, Twins (integerDigits positive n s) (integerDigits positive n' s) text)
    (fun n n' s => ?ends) (fun b l n n' ih s => ?goesOn) enough enough' s
  case ends => exact twins_peekDigit_bind (twins_afterInteger _ _) fun b l absent => nomatch absent
  case goesOn =>
    refine twins_peekDigit_bind (twins_afterInteger _ _) fun b' l' same digit => ?_
    dsimp only
    split
    · exact twins_longInteger _ _
    · exact twins_advance_bind (ih _)

theorem twins_unsigned (positive : Bool) :
    Twins (unsigned positive) (unsigned positive) text := by
  refine twins_next_bind (fun _ seen stop env c => ?_) fun b l _ => ?_
  · rcases stop with rfl | rfl | rfl <;> exact ⟨fails_fault _, fails_fault _⟩
  · dsimp only
    split
    · exact twins_peekDigit_bind (twins_afterInteger _ _) fun _ _ _ _ => twins_faultAhead _ _
    · split
      · exact twins_read_bind fun env env' enough enough' =>
          twins_integerDigits positive _ enough enough'
      · exact twins_fault _ _

/-- What a number is read as, and how far, does not depend on what comes after it. -/
theorem twins_number : Twins number number text := by
  refine twins_peek_bind ⟨rfl, rfl⟩ ⟨rfl, rfl⟩ (twins_unsigned true) fun b l same => ?_
  subst same
  split
  · exact twins_advance_bind (twins_unsigned false)
  · exact twins_unsigned true

theorem goes_peekDigit (digit : isDigit b = true) (rest : c.rest = b :: l) :
    Goes peekDigit env c (some (digitOf b)) (b :: l) := by
  refine (goes_peek rest).bind_goes fun c' left => ⟨c', ?_, left⟩
  simp only [digit, ↓reduceIte]
  rfl

theorem goes_peekDigit_stop {tail : List UInt8} (stops : Stops tail) (rest : c.rest = tail) :
    Goes peekDigit env c none tail := by
  refine (goes_peek_head rest).bind_goes fun c' left => ?_
  rcases stops.isStop with seen | seen | seen <;> rw [seen] <;> exact ⟨c', rfl, left⟩

theorem digitOf_code {ch : Char} (digit : ch.isDigit = true) :
    digitOf (code ch) = ch.toNat - '0'.toNat := by
  rw [digitOf, code_toNat (Nat.lt_of_le_of_lt (isDigit_bounds digit).2 (by decide))]
  rfl

theorem le_ofDigitChars (cs : List Char) (s : Nat) : s ≤ Nat.ofDigitChars 10 cs s := by
  rw [Nat.ofDigitChars_eq_ofDigitChars_zero]
  have power : 0 < 10 ^ cs.length := Nat.pow_pos (by decide)
  have scaled := Nat.le_mul_of_pos_left s power
  omega

theorem goes_integerDigits {positive : Bool} {cs : List Char} {n s : Nat} {j : Json}
    {tail : List UInt8} (digits : ∀ ch ∈ cs, ch.isDigit = true)
    (fits : Nat.ofDigitChars 10 cs s ≤ significandMax) (stops : Stops tail)
    (rest : c.rest = cs.map code ++ tail) (fuel : cs.length < n)
    (after : ∀ c', c'.rest = tail →
      Goes (afterInteger positive (Nat.ofDigitChars 10 cs s)) env c' j tail) :
    Goes (integerDigits positive n s) env c j tail := by
  induction cs generalizing c n s with
  | nil =>
    cases n with
    | zero => exact absurd fuel (Nat.not_lt_zero _)
    | succ n => exact (goes_peekDigit_stop stops rest).bind_goes fun c' left => after c' left
  | cons ch cs ih =>
    cases n with
    | zero => exact absurd fuel (Nat.not_lt_zero _)
    | succ n =>
      have digit := digits ch List.mem_cons_self
      have next : s * 10 + digitOf (code ch) = 10 * s + (ch.toNat - '0'.toNat) := by
        rw [digitOf_code digit, Nat.mul_comm]
      rw [Nat.ofDigitChars_cons, ← next] at fits
      have below := le_ofDigitChars cs (s * 10 + digitOf (code ch))
      refine (goes_peekDigit (isDigit_code digit) rest).bind_goes fun c' left => ?_
      dsimp only
      rw [if_neg (Nat.not_lt.2 (Nat.le_trans below fits))]
      refine Goes.bind_goes (goes_advance left) fun c'' left' => ?_
      refine ih (fun d hd => digits d (List.mem_cons_of_mem ch hd)) fits left'
        (Nat.lt_of_succ_lt_succ fuel) fun e left'' => ?_
      have last := after e left''
      rw [Nat.ofDigitChars_cons, ← next] at last
      exact last

theorem toDigits_zero_first {n : Nat} {rest : List Char}
    (text : Nat.toDigits 10 n = '0' :: rest) : n = 0 := by
  induction n using Nat.strongRecOn generalizing rest with
  | ind n ih =>
    by_cases small : n < 10
    · rw [Nat.toDigits_of_lt_base small] at text
      have single : ∀ n < 10, Nat.digitChar n = '0' → n = 0 := by decide
      exact single n small (List.head_eq_of_cons_eq text)
    · rw [Nat.toDigits_of_base_le (by decide) (Nat.not_lt.1 small)] at text
      cases front : Nat.toDigits 10 (n / 10) with
      | nil => exact absurd front Nat.toDigits_ne_nil
      | cons ch cs =>
        rw [front, List.cons_append] at text
        rw [List.head_eq_of_cons_eq text] at front
        have none := ih (n / 10) (by omega) front
        omega

theorem goes_unsigned {positive : Bool} {n : Nat} {j : Json} {tail : List UInt8}
    (fits : n ≤ significandMax) (stops : Stops tail)
    (rest : c.rest = (Nat.toDigits 10 n).map code ++ tail) (enough : c.rest.length < env.fuel)
    (after : ∀ c', c'.rest = tail → Goes (afterInteger positive n) env c' j tail) :
    Goes (unsigned positive) env c j tail := by
  have digits : ∀ d ∈ Nat.toDigits 10 n, d.isDigit = true :=
    fun d mem => Nat.isDigit_of_mem_toDigits (by decide) (by decide) mem
  have value : Nat.ofDigitChars 10 (Nat.toDigits 10 n) 0 = n := Nat.ofDigitChars_ten_toDigits
  cases text : Nat.toDigits 10 n with
  | nil => exact absurd text Nat.toDigits_ne_nil
  | cons ch cs =>
    rw [text] at digits value rest
    have digit := digits ch List.mem_cons_self
    refine (goes_next rest).bind_goes fun c' left => ?_
    dsimp only
    by_cases zero : ch = '0'
    · subst zero
      have none := toDigits_zero_first text
      subst none
      rw [Nat.toDigits_zero] at text
      cases text
      rw [if_pos rfl]
      exact Goes.bind_goes (goes_peekDigit_stop stops left) fun c'' left' => after c'' left'
    · have small : ch.toNat < 128 := Nat.lt_of_le_of_lt (isDigit_bounds digit).2 (by decide)
      rw [if_neg fun same => zero (code_inj small (by decide) same), if_pos (isDigit_code digit)]
      refine Goes.bind_goes goes_read fun c'' same => ?_
      have whole : Nat.ofDigitChars 10 cs (digitOf (code ch)) = n := by
        rw [digitOf_code digit, ← value, Nat.ofDigitChars_cons, Nat.mul_zero, Nat.zero_add]
      refine goes_integerDigits (fun d hd => digits d (List.mem_cons_of_mem ch hd))
        (whole.symm ▸ fits) stops (same.trans left) ?_ (whole.symm ▸ after)
      rw [rest] at enough
      simp only [List.map_cons, List.cons_append, List.length_cons, List.length_append,
        List.length_map] at enough
      omega

theorem IsStop.ends {seen : Option UInt8} (stop : IsStop seen) :
    seen ≠ some (code '.') ∧ isExponentLetter seen = false := by
  rcases stop with rfl | rfl | rfl <;> decide

theorem goes_afterInteger {positive : Bool} {n : Nat} {tail : List UInt8} (stops : Stops tail)
    (rest : c.rest = tail) :
    Goes (afterInteger positive n) env c
      (if positive then .int n
      else if 0 < n && n ≤ negativeMax then .int (-n)
      else .float (-(UInt64.ofNat n).toFloat)) tail := by
  obtain ⟨point, letter⟩ := stops.isStop.ends
  refine (goes_peek_head rest).bind_goes fun c' left => ?_
  rw [if_neg point, letter, if_neg Bool.false_ne_true]
  split
  · exact ⟨c', rfl, left⟩
  · split
    · exact ⟨c', rfl, left⟩
    · exact ⟨c', rfl, left⟩

theorem textBytes_nat (n : Nat) : textBytes (toString n) = (Nat.toDigits 10 n).map code := by
  rw [textBytes_codes fun ch mem => (isNumberChar_repr n ch mem).small]
  exact congrArg (List.map code) Nat.toList_repr

theorem goes_natural {n : Nat} {tail : List UInt8} (fits : n ≤ significandMax)
    (stops : Stops tail) (rest : c.rest = textBytes (toString n) ++ tail)
    (enough : c.rest.length < env.fuel) : Goes number env c (.int n) tail := by
  rw [textBytes_nat] at rest
  have positive (c' : JsonCursor) (left : c'.rest = (Nat.toDigits 10 n).map code ++ tail) :
      Goes (unsigned true) env c' (.int n) tail :=
    goes_unsigned fits stops left (by rw [left, ← rest]; exact enough)
      fun c'' left' => goes_afterInteger stops left'
  cases text : Nat.toDigits 10 n with
  | nil => exact absurd text Nat.toDigits_ne_nil
  | cons ch cs =>
    have digit : ch.isDigit = true := by
      have member : ch ∈ Nat.toDigits 10 n := text ▸ List.mem_cons_self
      exact Nat.isDigit_of_mem_toDigits (by decide) (by decide) member
    have sign : some (code ch) ≠ some (code '-') := by
      intro same
      have bounds := isDigit_bounds digit
      rw [code_inj (Nat.lt_of_le_of_lt bounds.2 (by decide)) (by decide)
        (Option.some.inj same)] at bounds
      exact absurd bounds.1 (by decide)
    rw [text] at rest positive
    refine (goes_peek rest).bind_goes fun c' left => ?_
    rw [if_neg sign]
    exact positive c' left

theorem goes_negative {n : Nat} {tail : List UInt8} (fits : n + 1 ≤ negativeMax)
    (stops : Stops tail) (rest : c.rest = textBytes (toString (Int.negSucc n)) ++ tail)
    (enough : c.rest.length < env.fuel) : Goes number env c (.int (Int.negSucc n)) tail := by
  have sign : textBytes "-" = [45] := textBytes_literal (s := "-") (by decide)
  rw [show toString (Int.negSucc n) = "-" ++ toString (n + 1) from rfl, textBytes_append, sign,
    textBytes_nat] at rest
  refine (goes_peek rest).bind_goes fun c' left => ?_
  refine Goes.bind_goes (goes_advance left) fun c'' left' => ?_
  refine goes_unsigned (Nat.le_trans fits (by decide)) stops left' ?_ fun d left => ?_
  · rw [left']
    rw [rest] at enough
    exact Nat.lt_of_succ_lt enough
  · have last : Goes (afterInteger false (n + 1)) env d _ tail := goes_afterInteger stops left
    have small : (0 < n + 1 && n + 1 ≤ negativeMax : Bool) = true :=
      Bool.and_eq_true_iff.2 ⟨decide_eq_true n.succ_pos, decide_eq_true fits⟩
    rw [if_neg Bool.false_ne_true, if_pos small] at last
    exact last

theorem goes_int {n : Int} {tail : List UInt8} (low : Int64.minValue.toInt ≤ n)
    (high : n < UInt64.size) (stops : Stops tail) (rest : c.rest = textBytes (toString n) ++ tail)
    (enough : c.rest.length < env.fuel) : Goes number env c (.int n) tail := by
  cases n with
  | ofNat n =>
    have fits : n ≤ significandMax := Nat.le_sub_one_of_lt (Int.ofNat_lt.1 high)
    exact goes_natural fits stops rest enough
  | negSucc n =>
    have least : Int64.minValue.toInt = -(negativeMax : Int) := by decide
    exact goes_negative (by omega) stops rest enough

theorem startsNumber_other (starts : startsNumber b = true) :
    isBlank b = false ∧ b ≠ 93 ∧ b ≠ code 'n' ∧ b ≠ code 't' ∧ b ≠ code 'f' := by
  have apart (a : UInt8) (other : startsNumber a = false) : b ≠ a := by
    rintro rfl
    exact Bool.noConfusion (starts.symm.trans other)
  refine ⟨?_, apart 93 rfl, apart _ rfl, apart _ rfl, apart _ rfl⟩
  simp [isBlank, apart 32 rfl, apart 10 rfl, apart 9 rfl, apart 13 rfl]

theorem valueUpTo_number {p : Nat} {blanks : List UInt8} (starts : startsNumber b = true)
    (blank : Blanks blanks) (rest : c.rest = blanks ++ b :: l)
    (enough : c.rest.length < env.fuel) :
    ∃ c', valueUpTo (p + 1) env c = number env c' ∧ c'.rest = b :: l := by
  obtain ⟨ink, -, null, true_, false_⟩ := startsNumber_other starts
  obtain ⟨c', ran, left⟩ : Goes valueStart env c b (b :: l) :=
    goes_valueStart blank ink rest enough
  refine ⟨c', ?_, left⟩
  rw [valueUpTo, bind_ok ran, if_neg null, if_neg true_, if_neg false_, if_pos starts]

/-- What could be a number is read in a document as it is by itself. -/
theorem reads_number {depth p : Nat} (number : NumberText text) :
    Reads (valueUpTo (p + 1)) depth text (JsonShape.any.readText true text).toOption := by
  obtain ⟨⟨b, l, rfl, starts⟩, bytes⟩ := number
  obtain ⟨ink, bracket, -⟩ := startsNumber_other starts
  refine ⟨⟨b, l, rfl, ink, bracket⟩, fun env c blanks tail _ blank stops rest enough => ?_⟩
  rw [List.append_assoc] at rest
  obtain ⟨d, same, left⟩ : ∃ d, valueUpTo (p + 1) env c = JsonReader.number env d ∧
      d.rest = b :: (l ++ tail) := valueUpTo_number starts blank rest enough
  let alone : JsonReading := ⟨true, depthLimit, (b :: l).length + 1⟩
  let outset : JsonCursor := ⟨b :: l, 1, 0, false⟩
  obtain ⟨d', same', left'⟩ : ∃ d', value alone outset = JsonReader.number alone d' ∧
      d'.rest = b :: l := valueUpTo_number starts blanks_nil rfl (Nat.lt_succ_self _)
  have enough' : (b :: l).length < env.fuel := by
    rw [rest, List.length_append, List.cons_append, List.length_cons, List.length_append] at enough
    rw [List.length_cons]
    omega
  have alike := twins_number env alone d d' tail [] stops stops_nil left
    (left'.trans (List.append_nil _).symm) enough' (Nat.lt_succ_self _)
  rw [← same, ← same'] at alike
  obtain ⟨out, within, whole⟩ := alike.outcomes bytes
  have told : (JsonShape.any.readText true (b :: l)).toOption = out :=
    run_of_outcome whole blanks_nil (Nat.zero_le _)
  rw [told]
  exact within

/-- What the text of a float is read as. -/
def rereadFloat (x : Float) : Option Json :=
  (JsonShape.any.readText true (textBytes (Json.floatText x))).toOption

theorem reads_null {depth p : Nat} :
    Reads (valueUpTo (p + 1)) depth (textBytes "null") (some .null) := by
  have bytes : textBytes "null" = 110 :: "ull".toList.map code := textBytes_literal (by decide)
  refine reads_valueStart bytes (by decide) (by decide) fun env c tail _ _ rest _ => ?_
  rw [bytes] at rest
  exact Goes.bind_goes (goes_word rest) fun c' left => ⟨c', rfl, left⟩

/-- A text that begins with a letter of no word is no value. -/
theorem reads_letter {depth p : Nat}
    (letter : b = code 'N' ∨ b = code 'i') : Reads (valueUpTo (p + 1)) depth (b :: l) none := by
  have ink : isBlank b = false := by rcases letter with rfl | rfl <;> decide
  have bracket : b ≠ 93 := by rcases letter with rfl | rfl <;> decide
  refine reads_valueStart rfl ink bracket fun env c tail _ _ _ _ => .inl ?_
  rcases letter with rfl | rfl <;> exact fails_faultAhead _

theorem reads_minus {depth p : Nat} :
    Reads (valueUpTo (p + 1)) depth (textBytes "-inf") none := by
  have bytes : textBytes "-inf" = 45 :: 105 :: [110, 102] := textBytes_literal (by decide)
  refine reads_valueStart bytes (by decide) (by decide) fun env c tail _ _ rest _ => .inl ?_
  rw [bytes] at rest
  refine Goes.bind_fails (goes_peek rest) fun c' left => ?_
  refine Goes.bind_fails (goes_advance left) fun c' left => ?_
  exact Goes.bind_fails (goes_next left) fun c' _ => fails_fault _

/-- A float is read in a document as its text is by itself. -/
theorem reads_float {depth p : Nat} (x : Float) :
    Reads (valueUpTo (p + 1)) depth (textBytes (Json.floatText x)) (rereadFloat x) := by
  have alone {out : Option Json}
      (reads : ∀ depth p, Reads (valueUpTo (p + 1)) depth (textBytes (Json.floatText x)) out) :
      Reads (valueUpTo (p + 1)) depth (textBytes (Json.floatText x)) (rereadFloat x) := by
    have whole := run_of_reads true (reads depthLimit 127) blanks_nil stops_nil
    rw [List.append_nil] at whole
    rw [show rereadFloat x = out from whole]
    exact reads depth p
  unfold Json.floatText at alone ⊢
  by_cases finite : x.isFinite = true
  · rw [if_pos finite] at alone ⊢
    rcases render_cases x with number | text | text | text
    · unfold rereadFloat Json.floatText
      rw [if_pos finite]
      exact reads_number number
    · have bytes : textBytes "NaN" = code 'N' :: [97, 78] := textBytes_literal (by decide)
      exact alone fun depth p => text ▸ bytes ▸ reads_letter (.inl rfl)
    · have bytes : textBytes "inf" = code 'i' :: [110, 102] := textBytes_literal (by decide)
      exact alone fun depth p => text ▸ bytes ▸ reads_letter (.inr rfl)
    · exact alone fun depth p => text ▸ reads_minus
  · rw [if_neg finite] at alone ⊢
    exact alone fun depth p => reads_null

end JsonReader

end ModHost
