import ModHost.Proofs.JsonContainers

set_option autoImplicit false

/-!
# Texts of numbers

The characters that numbers are written with. The text of a float begins with a sign or a digit
and has only bytes that a number may have, unless it is one of four words.
-/

namespace ModHost

namespace JsonReader

/-- A character that the text of a number may have. -/
def IsNumberChar (ch : Char) : Prop :=
  ch.isDigit = true ∨ ch = '+' ∨ ch = '-' ∨ ch = '.' ∨ ch = 'e'

/-- A text that a number may have, without its sign. -/
def Numeric (s : String) : Prop :=
  ∃ ch rest, s.toList = ch :: rest ∧ ch.isDigit = true ∧ ∀ d ∈ rest, IsNumberChar d

theorem isDigit_bounds {ch : Char} (digit : ch.isDigit = true) :
    48 ≤ ch.toNat ∧ ch.toNat ≤ 57 := by
  rw [Char.isDigit, Bool.and_eq_true, decide_eq_true_eq, decide_eq_true_eq] at digit
  exact digit

theorem code_toNat {ch : Char} (small : ch.toNat < 128) : (code ch).toNat = ch.toNat := by
  rw [code, UInt8.toNat_ofNat']
  omega

theorem isDigit_code {ch : Char} (digit : ch.isDigit = true) : isDigit (code ch) = true := by
  obtain ⟨low, high⟩ := isDigit_bounds digit
  have number := code_toNat (Nat.lt_of_le_of_lt high (by decide))
  simp only [isDigit, Bool.and_eq_true, decide_eq_true_eq, UInt8.le_iff_toNat_le, number]
  exact ⟨low, high⟩

theorem IsNumberChar.small {ch : Char} (number : IsNumberChar ch) : ch.toNat < 128 := by
  rcases number with digit | rfl | rfl | rfl | rfl
  · exact Nat.lt_of_le_of_lt (isDigit_bounds digit).2 (by decide)
  all_goals decide

theorem IsNumberChar.byte {ch : Char} (number : IsNumberChar ch) : IsNumberByte (code ch) := by
  rcases number with digit | rfl | rfl | rfl | rfl
  · exact .inl (isDigit_code digit)
  · exact .inr (.inl rfl)
  · exact .inr (.inr (.inl rfl))
  · exact .inr (.inr (.inr (.inl rfl)))
  · exact .inr (.inr (.inr (.inr (.inr rfl))))

theorem textBytes_codes {s : String} (small : ∀ ch ∈ s.toList, ch.toNat < 128) :
    textBytes s = s.toList.map code := by
  rw [textBytes_eq]
  generalize s.toList = cs at small
  induction cs with
  | nil => rfl
  | cons ch rest ih =>
    rw [List.flatMap_cons, utf8EncodeChar_code (small ch List.mem_cons_self),
      ih fun d hd => small d (List.mem_cons_of_mem ch hd)]
    rfl

theorem textBytes_literal {s : String} (small : s.toList.all (·.toNat < 128) = true) :
    textBytes s = s.toList.map code :=
  textBytes_codes fun ch mem => of_decide_eq_true (List.all_eq_true.1 small ch mem)

theorem Numeric.chars {s : String} (numeric : Numeric s) : ∀ ch ∈ s.toList, IsNumberChar ch := by
  obtain ⟨ch, rest, text, digit, later⟩ := numeric
  rw [text]
  exact List.forall_mem_cons.2 ⟨.inl digit, later⟩

theorem Numeric.append {s t : String} (numeric : Numeric s)
    (more : ∀ ch ∈ t.toList, IsNumberChar ch) : Numeric (s ++ t) := by
  obtain ⟨ch, rest, text, digit, later⟩ := numeric
  refine ⟨ch, rest ++ t.toList, ?_, digit, ?_⟩
  · rw [String.toList_append, text, List.cons_append]
  · exact List.forall_mem_append.2 ⟨later, more⟩

theorem numeric_ofList {ch : Char} {rest : List Char} (digit : ch.isDigit = true)
    (later : ∀ d ∈ rest, IsNumberChar d) : Numeric (String.ofList (ch :: rest)) :=
  ⟨ch, rest, String.toList_ofList, digit, later⟩

theorem isNumberChar_repr (n : Nat) : ∀ ch ∈ (toString n).toList, IsNumberChar ch := by
  intro ch mem
  rw [show (toString n).toList = Nat.toDigits 10 n from Nat.toList_repr] at mem
  exact .inl (Nat.isDigit_of_mem_toDigits (by decide) (by decide) mem)

theorem isNumberChar_toString (n : Int) : ∀ ch ∈ (toString n).toList, IsNumberChar ch := by
  cases n with
  | ofNat n => exact isNumberChar_repr n
  | negSucc n =>
    intro ch mem
    rw [show toString (Int.negSucc n) = "-" ++ toString (n + 1) from rfl,
      String.toList_append] at mem
    rcases List.mem_append.1 mem with sign | digit
    · exact .inr (.inr (.inl (List.mem_singleton.1 sign)))
    · exact isNumberChar_repr (n + 1) ch digit

theorem ofBits_digits (bits : Nat) :
    ∃ ch rest, (Decimal.ofBits bits).digits = ch :: rest ∧ ch.isDigit = true ∧
      ∀ d ∈ rest, d.isDigit = true := by
  obtain ⟨n, digits⟩ : ∃ n, (Decimal.ofBits bits).digits = Nat.toDigits 10 n := ⟨_, rfl⟩
  have all : ∀ d ∈ Nat.toDigits 10 n, d.isDigit = true :=
    fun d mem => Nat.isDigit_of_mem_toDigits (by decide) (by decide) mem
  rw [digits]
  cases text : Nat.toDigits 10 n with
  | nil => exact absurd text Nat.toDigits_ne_nil
  | cons ch rest =>
    rw [text] at all
    exact ⟨ch, rest, rfl, all ch List.mem_cons_self, fun d hd => all d (List.mem_cons_of_mem ch hd)⟩

theorem numeric_positional (bits : Nat) (fraction : Bool) :
    Numeric ((Decimal.ofBits bits).positional fraction) := by
  obtain ⟨ch, rest, digits, digit, later⟩ := ofBits_digits bits
  have zero : IsNumberChar '0' := .inl rfl
  have zeros (n : Nat) : ∀ d ∈ List.replicate n '0', IsNumberChar d := fun d mem =>
    List.eq_of_mem_replicate mem ▸ zero
  have all : ∀ d ∈ ch :: rest, IsNumberChar d := fun d mem => .inl (by
    rcases List.mem_cons.1 mem with rfl | mem
    · exact digit
    · exact later d mem)
  unfold Decimal.positional
  simp only [digits]
  split
  · refine Numeric.append ⟨'0', ['.'], rfl, rfl, ?_⟩ ?_
    · exact List.forall_mem_singleton.2 (.inr (.inr (.inr (.inl rfl))))
    · rw [String.toList_ofList]
      exact List.forall_mem_append.2 ⟨zeros _, all⟩
  · split
    · refine (numeric_ofList digit ?_).append ?_
      · exact List.forall_mem_append.2
          ⟨fun d mem => all d (List.mem_cons_of_mem ch mem), zeros _⟩
      · cases fraction with
        | true =>
          refine List.forall_mem_cons.2 ⟨.inr (.inr (.inr (.inl rfl))), ?_⟩
          exact List.forall_mem_singleton.2 zero
        | false => exact fun d mem => absurd mem List.not_mem_nil
    · rename_i above _
      obtain ⟨n, point⟩ : ∃ n, (Decimal.ofBits bits).point.toNat = n + 1 :=
        ⟨(Decimal.ofBits bits).point.toNat - 1, by omega⟩
      rw [point, List.take_succ_cons, List.cons_append]
      refine numeric_ofList digit (List.forall_mem_append.2 ⟨?_, List.forall_mem_cons.2 ⟨?_, ?_⟩⟩)
      · exact fun d mem => all d (List.mem_cons_of_mem ch (List.mem_of_mem_take mem))
      · exact .inr (.inr (.inr (.inl rfl)))
      · exact fun d mem => all d (List.mem_of_mem_drop mem)

theorem numeric_scientific (bits : Nat) (plus : Bool) :
    Numeric ((Decimal.ofBits bits).scientific plus) := by
  obtain ⟨ch, rest, digits, digit, later⟩ := ofBits_digits bits
  have letter : IsNumberChar 'e' := .inr (.inr (.inr (.inr rfl)))
  unfold Decimal.scientific
  simp only [digits]
  refine Numeric.append (Numeric.append ?_ ?_) (isNumberChar_toString _)
  · cases rest with
    | nil => exact numeric_ofList digit fun d mem => absurd mem List.not_mem_nil
    | cons d rest =>
      refine numeric_ofList digit (List.forall_mem_cons.2 ⟨?_, ?_⟩)
      · exact .inr (.inr (.inr (.inl rfl)))
      · exact fun d mem => .inl (later d mem)
  · split
    · refine List.forall_mem_cons.2 ⟨letter, List.forall_mem_singleton.2 ?_⟩
      exact .inr (.inl rfl)
    · exact List.forall_mem_singleton.2 letter

/-- Bytes that begin as a number does, and could all be of one. -/
structure NumberText (text : List UInt8) : Prop where
  starts : ∃ b l, text = b :: l ∧ startsNumber b = true
  bytes : ∀ b ∈ text, IsNumberByte b

theorem startsNumber_code {ch : Char} (digit : ch.isDigit = true) :
    startsNumber (code ch) = true := by
  rw [startsNumber, isDigit_code digit, Bool.or_true]

theorem Numeric.numberText {s : String} (numeric : Numeric s) : NumberText (textBytes s) := by
  have chars := numeric.chars
  rw [textBytes_codes fun ch mem => (chars ch mem).small]
  obtain ⟨ch, rest, text, digit, -⟩ := numeric
  refine ⟨⟨code ch, rest.map code, ?_, startsNumber_code digit⟩, ?_⟩
  · rw [text]
    rfl
  · exact List.forall_mem_map.2 fun ch mem => (chars ch mem).byte

theorem Numeric.negative {s : String} (numeric : Numeric s) :
    NumberText (textBytes ("-" ++ s)) := by
  have sign : textBytes "-" = [45] := textBytes_literal (s := "-") (by decide)
  rw [textBytes_append, sign]
  refine ⟨⟨45, textBytes s, rfl, rfl⟩, List.forall_mem_cons.2 ⟨.inr (.inr (.inl rfl)), ?_⟩⟩
  exact numeric.numberText.bytes

theorem Numeric.signed {s : String} (numeric : Numeric s) (p : Prop) [Decidable p] :
    NumberText (textBytes ((if p then "-" else "") ++ s)) := by
  split
  · exact numeric.negative
  · rw [String.empty_append]
    exact numeric.numberText

/-- The text of a finite float is that of a number; the layout has three words beside, for
floats that are not finite. -/
theorem render_cases (x : Float) :
    NumberText (textBytes (FloatStyle.json.render x)) ∨ FloatStyle.json.render x = "NaN" ∨
      FloatStyle.json.render x = "inf" ∨ FloatStyle.json.render x = "-inf" := by
  unfold FloatStyle.render
  dsimp only
  split
  · exact .inr (.inl rfl)
  · split
    · split
      · exact .inr (.inr (.inr rfl))
      · exact .inr (.inr (.inl rfl))
    · refine .inl ?_
      have zero : Numeric "0.0" := by
        refine ⟨'0', ['.', '0'], rfl, rfl, List.forall_mem_cons.2 ⟨?_, ?_⟩⟩
        · exact .inr (.inr (.inr (.inl rfl)))
        · exact List.forall_mem_singleton.2 (.inl rfl)
      split
      · exact zero.signed _
      · refine Numeric.signed ?_ _
        split
        · exact numeric_positional _ _
        · exact numeric_scientific _ _

theorem numberText_int (n : Int) : NumberText (textBytes (toString n)) := by
  have numeric (n : Nat) : Numeric (toString n) := by
    have text : (toString n).toList = Nat.toDigits 10 n := Nat.toList_repr
    have digits : ∀ d ∈ Nat.toDigits 10 n, d.isDigit = true :=
      fun d mem => Nat.isDigit_of_mem_toDigits (by decide) (by decide) mem
    cases layout : Nat.toDigits 10 n with
    | nil => exact absurd layout Nat.toDigits_ne_nil
    | cons ch rest =>
      rw [layout] at text digits
      exact ⟨ch, rest, text, digits ch List.mem_cons_self,
        fun d mem => .inl (digits d (List.mem_cons_of_mem ch mem))⟩
  cases n with
  | ofNat n => exact (numeric n).numberText
  | negSucc n => exact (numeric (n + 1)).negative

end JsonReader

end ModHost
