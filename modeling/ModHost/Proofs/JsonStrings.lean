import Mathlib.Tactic.SplitIfs
import ModHost.Json
import ModHost.Proofs.JsonReading

set_option autoImplicit false

/-!
# Strings that were written

A string is written between quotes, with an escape for each quote, backslash and control
character, and every other character as its bytes. The reader takes it byte by byte and puts
together the bytes of the same string.
-/

namespace ModHost

theorem toList_loop (bytes : ByteArray) (i : Nat) (taken : List UInt8) :
    ByteArray.toList.loop bytes i taken = taken.reverse ++ bytes.data.toList.drop i := by
  by_cases h : i < bytes.size
  · have ih := toList_loop bytes (i + 1) (bytes.get! i :: taken)
    rw [ByteArray.toList.loop, if_pos h, ih]
    have bound : i < bytes.data.toList.length := h
    have item : bytes.get! i = bytes.data.toList[i] := getElem!_pos bytes.data i h
    rw [List.drop_eq_getElem_cons bound, List.reverse_cons, List.append_assoc, item]
    rfl
  · rw [ByteArray.toList.loop, if_neg h]
    have bound : bytes.data.toList.length ≤ i := Nat.le_of_not_lt h
    rw [List.drop_eq_nil_of_le bound, List.append_nil]
termination_by bytes.size - i

theorem toList_eq (bytes : ByteArray) : bytes.toList = bytes.data.toList :=
  toList_loop bytes 0 []

/-- The bytes of a text. -/
def textBytes (s : String) : List UInt8 := s.toUTF8.toList

theorem textBytes_append (s t : String) : textBytes (s ++ t) = textBytes s ++ textBytes t := by
  unfold textBytes
  rw [toList_eq, toList_eq, toList_eq]
  simp [String.toUTF8, String.toByteArray_append]

theorem textBytes_ofList (cs : List Char) :
    textBytes (String.ofList cs) = cs.flatMap String.utf8EncodeChar := by
  unfold textBytes
  rw [toList_eq]
  simp [String.toUTF8, List.utf8Encode]

theorem textBytes_eq (s : String) : textBytes s = s.toList.flatMap String.utf8EncodeChar := by
  rw [← textBytes_ofList, String.ofList_toList]

theorem fromUTF8?_textBytes (s : String) : String.fromUTF8? ⟨(textBytes s).toArray⟩ = some s := by
  have same : (⟨(textBytes s).toArray⟩ : ByteArray) = s.toUTF8 := by
    unfold textBytes
    rw [toList_eq]
  rw [same]
  simp [String.fromUTF8?, String.toUTF8, s.isValidUTF8, String.fromUTF8]

theorem utf8EncodeChar_code {c : Char} (small : c.toNat < 128) :
    String.utf8EncodeChar c = [JsonReader.code c] := by
  have bound : c.val.toNat ≤ 0x7f := Nat.le_of_lt_succ small
  unfold String.utf8EncodeChar
  simp only [bound, ↓reduceIte]
  rfl

theorem utf8EncodeChar_large {c : Char} (large : 128 ≤ c.toNat) :
    ∀ b ∈ String.utf8EncodeChar c, 128 ≤ b.toNat := by
  have bound : ¬ c.val.toNat ≤ 0x7f := Nat.not_le.2 large
  have valid : c.val.toNat < 0x110000 := by
    rcases c.valid with below | ⟨-, below⟩
    · exact Nat.lt_trans below (by decide)
    · exact below
  intro b
  unfold String.utf8EncodeChar
  simp only [bound, ↓reduceIte]
  split
  · rintro hb
    simp only [List.mem_cons, List.not_mem_nil, or_false] at hb
    rcases hb with rfl | rfl <;> simp only [UInt8.toNat_ofNat'] <;> omega
  · split
    · rintro hb
      simp only [List.mem_cons, List.not_mem_nil, or_false] at hb
      rcases hb with rfl | rfl | rfl <;> simp only [UInt8.toNat_ofNat'] <;> omega
    · rintro hb
      simp only [List.mem_cons, List.not_mem_nil, or_false] at hb
      rcases hb with rfl | rfl | rfl | rfl <;> simp only [UInt8.toNat_ofNat'] <;> omega

namespace JsonReader

variable {env : JsonReading} {c : JsonCursor} {l : List UInt8}

/-- Reading some bytes of a string's body has put these bytes before those taken so far. -/
def Takes (text made : List UInt8) : Prop :=
  ∀ (env : JsonReading) (c : JsonCursor) (l taken : List UInt8) (n : Nat),
    c.rest = text ++ l → c.rest.length < n →
    ∃ m c', stringBody n taken env c = stringBody m (made.reverse ++ taken) env c' ∧
      c'.rest = l ∧ c'.rest.length < m

theorem takes_nil : Takes [] [] := fun _ c _ _ n rest enough => ⟨n, c, rfl, rest, enough⟩

theorem Takes.append {text text' made made' : List UInt8} (first : Takes text made)
    (second : Takes text' made') : Takes (text ++ text') (made ++ made') := by
  intro env c l taken n rest enough
  rw [List.append_assoc] at rest
  obtain ⟨m, c', same, left, enough'⟩ := first env c _ taken n rest enough
  obtain ⟨k, c'', same', left', enough''⟩ := second env c' l _ m left enough'
  refine ⟨k, c'', ?_, left', enough''⟩
  rw [same, same', List.reverse_append, List.append_assoc]

theorem stringBody_ok {n : Nat} {taken : List UInt8} {b : UInt8} {c' : JsonCursor}
    (ran : next env c = .ok (some b) c') :
    stringBody (n + 1) taken env c =
      (if b = code '"' then textOf taken.reverse
      else if b = code '\\' then do
        let ch ← escapedChar
        stringBody n (ch.toString.toUTF8.toList.reverse ++ taken)
      else if b < 32 then fault .controlCharacter
      else stringBody n (b :: taken)) env c' := by
  rw [stringBody, bind_ok ran]
  exact bind_ok rfl

/-- A byte that is neither a quote nor a backslash nor a control character stands for
itself. -/
theorem takes_plain {b : UInt8} (quote : b ≠ code '"') (backslash : b ≠ code '\\')
    (plain : 32 ≤ b.toNat) : Takes [b] [b] := by
  intro env c l taken n rest enough
  cases n with
  | zero => omega
  | succ n =>
    obtain ⟨c', ran, left⟩ : Goes next env c (some b) l := goes_next rest
    have notControl : ¬ b < 32 := by
      rw [UInt8.lt_iff_toNat_lt]
      exact Nat.not_lt.2 plain
    refine ⟨n, c', ?_, left, ?_⟩
    · rw [stringBody_ok ran, if_neg quote, if_neg backslash, if_neg notControl]
      rfl
    · rw [rest] at enough
      rw [left]
      simpa using enough

theorem takes_escape {text : List UInt8} {ch : Char}
    (goes : ∀ (env : JsonReading) (c : JsonCursor) (l : List UInt8), c.rest = text ++ l →
      Goes escapedChar env c ch l) : Takes (92 :: text) (String.utf8EncodeChar ch) := by
  intro env c l taken n rest enough
  cases n with
  | zero => omega
  | succ n =>
    obtain ⟨c', ran, left⟩ : Goes next env c (some 92) (text ++ l) := goes_next rest
    obtain ⟨c'', ran', left'⟩ := goes env c' l left
    have bytes : ch.toString.toUTF8.toList = String.utf8EncodeChar ch := by
      have single := textBytes_ofList [ch]
      rw [List.flatMap_singleton] at single
      exact single
    refine ⟨n, c'', ?_, left', ?_⟩
    · rw [stringBody_ok ran, if_neg (by decide), if_pos (by decide), bind_ok ran', bytes]
    · rw [rest] at enough
      rw [left']
      simp only [List.length_append, List.length_cons] at enough
      omega

theorem goes_orStringEnds (b : UInt8) : Goes (orStringEnds (some b)) env c b c.rest :=
  ⟨c, rfl, rfl⟩

theorem goes_stringByte {α : Type} {b : UInt8} {f : UInt8 → JsonReader α} {a : α}
    {tail : List UInt8} (rest : c.rest = b :: l)
    (after : ∀ c', c'.rest = l → Goes (f b) env c' a tail) :
    Goes (next >>= fun seen => orStringEnds seen >>= f) env c a tail := by
  refine (goes_next rest).bind_goes fun c' left => ?_
  exact (goes_orStringEnds b).bind_goes fun c'' same => after c'' (same.trans left)

/-- The digits that the escape of a control character has are read as its number. -/
theorem hexValue_digits : ∀ n < 32,
    hexValue (code (Nat.digitChar (n / 16))) = some (n / 16) ∧
      hexValue (code (Nat.digitChar (n % 16))) = some (n % 16) := by
  decide

theorem goes_hexCode {n : Nat} (control : n < 32)
    (rest : c.rest = 48 :: 48 :: code (Nat.digitChar (n / 16)) ::
      code (Nat.digitChar (n % 16)) :: l) : Goes hexCode env c n l := by
  obtain ⟨high, low⟩ := hexValue_digits n control
  have zero : hexValue 48 = some 0 := by decide
  have total : ((0 * 16 + 0) * 16 + n / 16) * 16 + n % 16 = n := by omega
  refine goes_stringByte rest fun c rest => ?_
  refine goes_stringByte rest fun c rest => ?_
  refine goes_stringByte rest fun c rest => ?_
  refine goes_stringByte rest fun c left => ?_
  rw [zero, high, low]
  dsimp only
  rw [total]
  exact ⟨c, rfl, left⟩

theorem goes_unicodeEscape {n : Nat} (control : n < 32)
    (rest : c.rest = 117 :: 48 :: 48 :: code (Nat.digitChar (n / 16)) ::
      code (Nat.digitChar (n % 16)) :: l) : Goes escapedChar env c (Char.ofNat n) l := by
  refine goes_stringByte rest fun c left => ?_
  refine Goes.bind_goes (goes_hexCode control left) fun c left => ?_
  have notLow : ¬ (0xdc00 ≤ n ∧ n ≤ 0xdfff) := by omega
  have notHigh : ¬ (0xd800 ≤ n ∧ n ≤ 0xdbff) := by omega
  simp only [Bool.and_eq_true, decide_eq_true_eq, notLow, notHigh, ↓reduceIte]
  exact ⟨c, rfl, left⟩

theorem code_digitChar : ∀ n < 16, (Nat.digitChar n).toNat < 128 := by decide

theorem textBytes_controlEscape {n : Nat} (control : n < 32) :
    textBytes (String.ofList
      ['\\', 'u', '0', '0', Nat.digitChar (n / 16), Nat.digitChar (n % 16)]) =
      92 :: 117 :: 48 :: 48 :: code (Nat.digitChar (n / 16)) ::
        [code (Nat.digitChar (n % 16))] := by
  rw [textBytes_ofList]
  simp only [List.flatMap_cons, List.flatMap_nil,
    utf8EncodeChar_code (code_digitChar (n / 16) (by omega)),
    utf8EncodeChar_code (code_digitChar (n % 16) (by omega))]
  rfl

/-- The characters with an escape of their own, after the letter of it. -/
def namedEscapes : List (Char × Char) :=
  [('"', '"'), ('\\', '\\'), ('n', '\n'), ('r', '\r'), ('t', '\t'), ('b', '\x08'), ('f', '\x0c')]

theorem takes_named (letter ch : Char) (named : (letter, ch) ∈ namedEscapes) :
    Takes (textBytes (String.ofList ['\\', letter])) (String.utf8EncodeChar ch) := by
  have small : letter.toNat < 128 := by
    revert named
    simp only [namedEscapes, List.mem_cons, Prod.mk.injEq, List.not_mem_nil, or_false]
    rintro (⟨rfl, -⟩ | ⟨rfl, -⟩ | ⟨rfl, -⟩ | ⟨rfl, -⟩ | ⟨rfl, -⟩ | ⟨rfl, -⟩ | ⟨rfl, -⟩) <;> decide
  have bytes : textBytes (String.ofList ['\\', letter]) = [92, code letter] := by
    rw [textBytes_ofList]
    simp only [List.flatMap_cons, List.flatMap_nil, utf8EncodeChar_code small]
    rfl
  rw [bytes]
  refine takes_escape fun env c l rest => goes_stringByte rest fun c left => ?_
  simp only [namedEscapes, List.mem_cons, Prod.mk.injEq, List.not_mem_nil, or_false] at named
  rcases named with ⟨rfl, rfl⟩ | ⟨rfl, rfl⟩ | ⟨rfl, rfl⟩ | ⟨rfl, rfl⟩ | ⟨rfl, rfl⟩ | ⟨rfl, rfl⟩ |
      ⟨rfl, rfl⟩ <;>
    exact ⟨c, rfl, left⟩

theorem takes_plains (bytes : List UInt8)
    (plain : ∀ b ∈ bytes, b ≠ code '"' ∧ b ≠ code '\\' ∧ 32 ≤ b.toNat) : Takes bytes bytes := by
  induction bytes with
  | nil => exact takes_nil
  | cons b rest ih =>
    obtain ⟨quote, backslash, bound⟩ := plain b List.mem_cons_self
    exact (takes_plain quote backslash bound).append
      (ih fun d hd => plain d (List.mem_cons_of_mem b hd))

theorem code_inj {a b : Char} (ha : a.toNat < 128) (hb : b.toNat < 128) (same : code a = code b) :
    a = b := by
  have numbers := congrArg UInt8.toNat same
  simp only [code, UInt8.toNat_ofNat'] at numbers
  exact Char.toNat_inj.1 (by omega)

theorem takes_char (ch : Char) : Takes (textBytes (Json.escape ch)) (String.utf8EncodeChar ch) := by
  unfold Json.escape
  split_ifs with quote backslash newline return_ tab back feed control
  · exact takes_named '"' ch (by simp [namedEscapes, quote])
  · exact takes_named '\\' ch (by simp [namedEscapes, backslash])
  · exact takes_named 'n' ch (by simp [namedEscapes, newline])
  · exact takes_named 'r' ch (by simp [namedEscapes, return_])
  · exact takes_named 't' ch (by simp [namedEscapes, tab])
  · exact takes_named 'b' ch (by simp [namedEscapes, back])
  · exact takes_named 'f' ch (by simp [namedEscapes, feed])
  · rw [textBytes_controlEscape control]
    refine takes_escape fun env c l rest => ?_
    rw [← Char.ofNat_toNat ch]
    exact goes_unicodeEscape control rest
  · rw [textBytes_ofList, List.flatMap_singleton]
    refine takes_plains _ fun b hb => ?_
    by_cases small : ch.toNat < 128
    · rw [utf8EncodeChar_code small, List.mem_singleton] at hb
      subst hb
      refine ⟨fun same => quote (code_inj small (by decide) same),
        fun same => backslash (code_inj small (by decide) same), ?_⟩
      simp only [code, UInt8.toNat_ofNat']
      omega
    · have large := utf8EncodeChar_large (Nat.not_lt.1 small) b hb
      refine ⟨?_, ?_, by omega⟩ <;>
      · rintro rfl
        exact absurd large (by decide)

theorem takes_escaped (cs : List Char) :
    Takes (textBytes (String.join (cs.map Json.escape))) (cs.flatMap String.utf8EncodeChar) := by
  induction cs with
  | nil =>
    have empty : textBytes (String.join []) = [] := textBytes_ofList []
    rw [List.map_nil, empty]
    exact takes_nil
  | cons ch rest ih =>
    rw [List.map_cons, String.join_cons, textBytes_append, List.flatMap_cons]
    exact (takes_char ch).append ih

theorem textBytes_stringText (s : String) : textBytes (Json.stringText s) =
    34 :: (textBytes (String.join (s.toList.map Json.escape)) ++ [34]) := by
  have quote : textBytes "\"" = [34] := by
    refine (textBytes_ofList ['"']).trans ?_
    rw [List.flatMap_singleton]
    exact utf8EncodeChar_code (by decide)
  rw [Json.stringText, textBytes_append, textBytes_append, quote]
  rfl

theorem goes_string {s : String} (rest : c.rest = textBytes (Json.stringText s) ++ l)
    (enough : c.rest.length < env.fuel) : Goes string env c s l := by
  rw [textBytes_stringText, List.cons_append, List.append_assoc] at rest
  refine (goes_advance rest).bind_goes fun c' left => ?_
  refine goes_read.bind_goes fun c'' same => ?_
  have shorter : c''.rest.length < env.fuel := by
    rw [same, left]
    rw [rest] at enough
    exact Nat.lt_of_succ_lt enough
  obtain ⟨m, d, body, left, enough⟩ := takes_escaped s.toList env c'' ([34] ++ l) [] env.fuel
    (same.trans left) shorter
  cases m with
  | zero => omega
  | succ m =>
    obtain ⟨d', ran, left⟩ : Goes next env d (some 34) l := goes_next left
    refine ⟨d', ?_, left⟩
    rw [body, stringBody_ok ran, if_pos (by decide), List.append_nil, List.reverse_reverse,
      ← textBytes_eq, textOf, fromUTF8?_textBytes]
    rfl

end JsonReader

end ModHost
