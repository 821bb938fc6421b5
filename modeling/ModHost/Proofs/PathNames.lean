import Mathlib.Data.List.Basic
import ModHost.Path

set_option autoImplicit false

/-!
# Names along a path

A path is told by what it starts from, which is the root, a leading point or nothing, and by the
names on its way. Joining puts the names of one path behind those of another, unless the one is
absolute, so equal bases give equal paths.
-/

namespace ModHost.Path

theorem splitReversed_eq (cs piece : List Char) (acc : List (List Char)) :
    splitReversed cs piece acc = (cs.splitOnPPrepend (· == '/') piece).reverse ++ acc := by
  fun_induction splitReversed cs piece acc with
  | case1 piece acc => rfl
  | case2 piece acc rest ih =>
    rw [ih, List.splitOnPPrepend_cons_pos (by rfl)]
    simp
  | case3 piece acc c rest other ih =>
    rw [ih, List.splitOnPPrepend_cons_neg]
    simpa using other

theorem pieces_eq (p : Path) : pieces p = (p.toList.splitOn '/').map String.ofList := by
  rw [pieces, splitReversed_eq, List.append_nil, List.reverse_reverse, List.splitOn_eq_splitOnP,
    List.splitOnP_eq_splitOnPPrepend]

theorem pieces_ne_nil (p : Path) : pieces p ≠ [] := by
  rw [pieces_eq]
  simp

theorem pieces_append (a b : String) : pieces (a ++ "/" ++ b) = pieces a ++ pieces b := by
  have text : (a ++ "/" ++ b).toList = a.toList ++ '/' :: b.toList := by simp
  rw [pieces_eq, pieces_eq, pieces_eq, text, List.splitOn_append_cons_self, List.map_append]

theorem pieces_single {n : String} (single : '/' ∉ n.toList) : pieces n = [n] := by
  rw [pieces_eq, List.splitOn_eq_singleton single]
  simp

theorem pieces_trailing (a : String) : pieces (a ++ "/") = pieces a ++ [""] := by
  simpa [pieces_single] using pieces_append a ""

theorem not_mem_of_mem_splitOn {c : Char} {cs piece : List Char} (mem : piece ∈ cs.splitOn c) :
    c ∉ piece := by
  induction cs generalizing piece with
  | nil =>
    rw [List.mem_singleton.1 mem]
    exact List.not_mem_nil
  | cons d rest ih =>
    rw [List.splitOn_cons_eq_if_modifyHead] at mem
    split at mem
    · obtain rfl | later := List.mem_cons.1 mem
      · exact List.not_mem_nil
      · exact ih later
    · next other =>
      obtain ⟨first, more, split⟩ := List.exists_cons_of_ne_nil (List.splitOn_ne_nil c rest)
      rw [split] at mem ih
      obtain rfl | later := List.mem_cons.1 mem
      · rw [List.mem_cons, not_or]
        exact ⟨fun same => other (beq_iff_eq.2 same.symm), ih List.mem_cons_self⟩
      · exact ih (List.mem_cons_of_mem _ later)

theorem mem_splitOn {c d : Char} {cs : List Char} (other : c ≠ d) :
    c ∈ cs ↔ ∃ piece ∈ cs.splitOn d, c ∈ piece := by
  induction cs with
  | nil => simp
  | cons e rest ih =>
    rw [List.splitOn_cons_eq_if_modifyHead]
    split
    · next same =>
      have : c ≠ e := fun equal => other (equal.trans (beq_iff_eq.1 same))
      simp [ih, this]
    · obtain ⟨first, more, split⟩ := List.exists_cons_of_ne_nil (List.splitOn_ne_nil d rest)
      rw [split] at ih ⊢
      simp [ih, or_assoc]

theorem single_of_mem_pieces {p : Path} {c : String} (mem : c ∈ pieces p) : '/' ∉ c.toList := by
  rw [pieces_eq] at mem
  obtain ⟨piece, of, rfl⟩ := List.mem_map.1 mem
  rw [String.toList_ofList]
  exact not_mem_of_mem_splitOn of

theorem isAbsolute_iff {p : Path} : isAbsolute p = true ↔ p.toList.head? = some '/' := by
  rw [isAbsolute, String.startsWith_string_iff]
  cases p.toList with
  | nil => simp
  | cons c rest => simp [eq_comm]

/-- What follows a text does not matter for where it starts from. -/
theorem isAbsolute_append {p : Path} (given : p ≠ "") (q : String) :
    isAbsolute (p ++ q) = isAbsolute p := by
  rw [Bool.eq_iff_iff, isAbsolute_iff, isAbsolute_iff, String.toList_append,
    List.head?_append_of_ne_nil _ (by simpa using given)]

/-- The names on the way. -/
def names (p : Path) : List String := (pieces p).filter fun c => c ≠ "" && c ≠ "."

/-- What comes before the names. -/
def start (p : Path) : List String :=
  if isAbsolute p then ["/"] else if (pieces p).head? = some "." then ["."] else []

theorem components_eq (p : Path) : components p = start p ++ names p := by
  unfold components start names
  dsimp only
  congr 2
  split
  · next rest split => simp [split]
  · next other =>
    rw [if_neg]
    intro first
    obtain ⟨rest, split⟩ := List.head?_eq_some_iff.1 first
    exact other rest split

/-- A piece that counts as a name on the way. -/
structure IsStep (c : String) : Prop where
  single : '/' ∉ c.toList
  given : c ≠ ""
  moves : c ≠ "."

theorem mem_names {p : Path} {c : String} : c ∈ names p ↔ c ∈ pieces p ∧ c ≠ "" ∧ c ≠ "." := by
  simp [names]

theorem isStep_of_mem_names {p : Path} {c : String} (mem : c ∈ names p) : IsStep c :=
  have ⟨piece, given, moves⟩ := mem_names.1 mem
  ⟨single_of_mem_pieces piece, given, moves⟩

theorem not_isAbsolute_of_single {n : String} (single : '/' ∉ n.toList) : isAbsolute n = false := by
  rw [← Bool.not_eq_true, isAbsolute_iff]
  exact fun first => single (List.mem_of_head? first)

theorem IsStep.notRoot {c : String} (step : IsStep c) : c ≠ "/" := fun root =>
  step.single (by simp [root])

theorem IsStep.names_eq {c : String} (step : IsStep c) : names c = [c] := by
  simp [names, pieces_single step.single, step.given, step.moves]

theorem IsStep.start_eq {c : String} (step : IsStep c) : start c = [] := by
  simp [start, pieces_single step.single, not_isAbsolute_of_single step.single, step.moves]

theorem pieces_empty : pieces "" = [""] := pieces_single (by simp)

theorem pieces_point : pieces "." = ["."] := pieces_single (by simp)

theorem not_isAbsolute_empty : isAbsolute "" = false := not_isAbsolute_of_single (by simp)

theorem isAbsolute_separator : isAbsolute "/" = true := isAbsolute_iff.2 (by simp)

theorem names_point : names "." = [] := by simp [names, pieces_point]

theorem components_empty : components "" = [] := by
  simp [components_eq, names, start, pieces_empty, not_isAbsolute_empty]

theorem components_point : components "." = ["."] := by
  have relative : isAbsolute "." = false := not_isAbsolute_of_single (by simp)
  simp [components_eq, names_point, start, pieces_point, relative]

theorem components_separator : components "/" = ["/"] := by
  have both : pieces "/" = ["", ""] := by simpa [pieces_empty] using pieces_trailing ""
  simp [components_eq, names, start, both, isAbsolute_separator]

theorem components_eq_nil {p : Path} : components p = [] ↔ p = "" := by
  refine ⟨fun none => ?_, fun empty => empty ▸ components_empty⟩
  rw [components_eq, List.append_eq_nil_iff] at none
  obtain ⟨start, names⟩ := none
  unfold Path.start at start
  split at start
  · cases start
  · next relative =>
    split at start
    · cases start
    · next unpointed =>
      obtain ⟨first, rest, split⟩ := List.exists_cons_of_ne_nil (List.splitOn_ne_nil '/' p.toList)
      have pieces : pieces p = String.ofList first :: rest.map String.ofList := by
        rw [pieces_eq, split, List.map_cons]
      have empty : first = [] := by
        by_contra given
        refine List.not_mem_nil (names ▸ mem_names.2 (⟨pieces ▸ List.mem_cons_self, ?_, ?_⟩ :
          String.ofList first ∈ Path.pieces p ∧ _ ∧ _))
        · simpa using given
        · rw [pieces] at unpointed
          simpa using unpointed
      have text : List.intercalate ['/'] (p.toList.splitOn '/') = p.toList :=
        List.intercalate_splitOn '/'
      rw [split, empty] at text
      cases rest with
      | nil => simpa using text.symm
      | cons second rest =>
        refine absurd (isAbsolute_iff.2 ?_) relative
        rw [← text]
        rfl

theorem names_eq (p : Path) : names p = (components p).filter fun c => c ≠ "/" && c ≠ "." := by
  have first : (start p).filter (fun c => c ≠ "/" && c ≠ ".") = [] := by
    unfold start
    split
    · rfl
    · split <;> rfl
  have others : (names p).filter (fun c => c ≠ "/" && c ≠ ".") = names p := by
    refine List.filter_eq_self.2 fun c mem => ?_
    have step := isStep_of_mem_names mem
    simp [step.notRoot, step.moves]
  rw [components_eq, List.filter_append, first, others, List.nil_append]

theorem names_of_append {p d : Path} {cs : List String} (ends : components p = components d ++ cs) :
    names p = names d ++ cs.filter fun c => c ≠ "/" && c ≠ "." := by
  rw [names_eq, names_eq, ends, List.filter_append]

theorem names_of_components {p d : Path} {name : String} (step : IsStep name)
    (ends : components p = components d ++ [name]) : names p = names d ++ [name] := by
  rw [names_of_append ends]
  simp [step.notRoot, step.moves]

theorem names_of_same {p q : Path} (equal : same p q = true) : names p = names q := by
  rw [names_eq, names_eq, same_iff.1 equal]

theorem isAbsolute_iff_mem {p : Path} : isAbsolute p = true ↔ "/" ∈ components p := by
  have named : "/" ∉ names p := fun mem => (isStep_of_mem_names mem).notRoot rfl
  rw [components_eq, List.mem_append, or_iff_left named, start]
  cases isAbsolute p with
  | true => simp
  | false =>
    simp only [Bool.false_eq_true, if_false, false_iff]
    split <;> decide

/-- A character that is no separator and no point stands in one of the names. -/
theorem mem_toList {p : Path} {c : Char} (separate : c ≠ '/') (pointless : c ≠ '.') :
    c ∈ p.toList ↔ ∃ name ∈ names p, c ∈ name.toList := by
  rw [mem_splitOn separate]
  constructor
  · rintro ⟨piece, mem, inside⟩
    have inside : c ∈ (String.ofList piece).toList := by rwa [String.toList_ofList]
    refine ⟨String.ofList piece, mem_names.2 ⟨?_, ?_, ?_⟩, inside⟩
    · rw [pieces_eq]
      exact List.mem_map_of_mem mem
    · intro empty
      simp [empty] at inside
    · intro point
      rw [point] at inside
      exact pointless (by simpa using inside)
  · rintro ⟨name, mem, inside⟩
    obtain ⟨isPiece, -⟩ := mem_names.1 mem
    rw [pieces_eq] at isPiece
    obtain ⟨piece, from_, rfl⟩ := List.mem_map.1 isPiece
    exact ⟨piece, from_, by rwa [String.toList_ofList] at inside⟩

theorem endsWith_separator {base : String} :
    base.endsWith "/" = true ↔ ∃ b, base = b ++ "/" := by
  rw [String.endsWith_eq_endsWith_toSlice, String.Slice.endsWith_string_iff, String.copy_toSlice]
  constructor
  · rintro ⟨cs, text⟩
    refine ⟨String.ofList cs, ?_⟩
    rw [← String.toList_inj, ← text]
    simp
  · rintro ⟨b, rfl⟩
    exact ⟨b.toList, by simp⟩

/-- A relative path is put behind a separator, unless there is no base. -/
theorem join_cases (base : Path) {p : Path} (relative : isAbsolute p = false) :
    base = "" ∧ join base p = p ∨
      base ≠ "" ∧ ∃ b, (base = b ++ "/" ∨ base = b) ∧ join base p = b ++ "/" ++ p := by
  unfold join
  rw [relative, if_neg Bool.false_ne_true]
  by_cases empty : base = ""
  · left
    simp [empty]
  · refine .inr ⟨empty, ?_⟩
    by_cases ended : base.endsWith "/" = true
    · obtain ⟨b, split⟩ := endsWith_separator.1 ended
      refine ⟨b, .inl split, ?_⟩
      rw [if_pos (by simp [ended]), ← split]
    · exact ⟨base, .inr rfl, by simp [empty, ended]⟩

theorem join_absolute (base : Path) {p : Path} (absolute : isAbsolute p = true) :
    join base p = p := by
  rw [join, if_pos absolute]

theorem names_append (a b : String) : names (a ++ "/" ++ b) = names a ++ names b := by
  simp [names, pieces_append]

theorem names_trailing (a : String) : names (a ++ "/") = names a := by
  simp [names, pieces_trailing]

theorem head?_pieces_append (a b : String) :
    (pieces (a ++ "/" ++ b)).head? = (pieces a).head? := by
  rw [pieces_append, List.head?_append_of_ne_nil _ (pieces_ne_nil a)]

theorem head?_pieces_trailing (a : String) : (pieces (a ++ "/")).head? = (pieces a).head? := by
  rw [pieces_trailing, List.head?_append_of_ne_nil _ (pieces_ne_nil a)]

section Relative

variable {base p : Path} (relative : isAbsolute p = false)

include relative

theorem isAbsolute_join (base : Path) : isAbsolute (join base p) = isAbsolute base := by
  obtain ⟨rfl, joined⟩ | ⟨given, b, rfl | rfl, joined⟩ := join_cases base relative
  · rw [joined, relative, not_isAbsolute_empty]
  · rw [joined, isAbsolute_append given]
  · rw [joined, String.append_assoc, isAbsolute_append given]

theorem names_join (base : Path) : names (join base p) = names base ++ names p := by
  obtain ⟨rfl, joined⟩ | ⟨-, b, rfl | rfl, joined⟩ := join_cases base relative
  · rw [joined]
    rfl
  · rw [joined, names_append, names_trailing]
  · rw [joined, names_append]

theorem components_join (given : base ≠ "") :
    components (join base p) = components base ++ names p := by
  obtain ⟨empty, -⟩ | ⟨-, b, ended, joined⟩ := join_cases base relative
  · exact absurd empty given
  · have first : (pieces (join base p)).head? = (pieces base).head? := by
      rw [joined, head?_pieces_append]
      obtain rfl | rfl := ended
      · rw [head?_pieces_trailing]
      · rfl
    have same : start (join base p) = start base := by
      rw [start, start, isAbsolute_join relative, first]
    rw [components_eq, components_eq, same, names_join relative, List.append_assoc]

theorem mem_join {c : Char} (other : c ≠ '/') (base : Path) :
    c ∈ (join base p).toList ↔ c ∈ base.toList ∨ c ∈ p.toList := by
  obtain ⟨rfl, joined⟩ | ⟨-, b, rfl | rfl, joined⟩ := join_cases base relative
  · simp [joined]
  · simp [joined, other]
  · simp [joined, other]

end Relative

theorem join_empty (p : Path) : join "" p = p := by
  unfold join
  split <;> simp

theorem components_join_step (base : Path) {c : String} (step : IsStep c) :
    components (join base c) = components base ++ [c] := by
  by_cases empty : base = ""
  · rw [empty, join_empty, components_empty, components_eq, step.start_eq, step.names_eq]
  · rw [components_join (not_isAbsolute_of_single step.single) empty, step.names_eq]

/-- Whether only a directory will do at the end of a path. -/
def wantsDir (p : Path) : Bool :=
  match (pieces p).getLast? with
  | some c => c = "" || c = "."
  | none => false

theorem wantsDir_empty : wantsDir "" = true := by simp [wantsDir, pieces_empty]

theorem wantsDir_join (base p : Path) : wantsDir (join base p) = wantsDir p := by
  cases absolute : isAbsolute p with
  | true => rw [join_absolute base absolute]
  | false =>
    obtain ⟨-, joined⟩ | ⟨-, b, -, joined⟩ := join_cases base absolute
    · rw [joined]
    · have last : (pieces (b ++ "/" ++ p)).getLast? = (pieces p).getLast? := by
        rw [pieces_append, List.getLast?_append_of_ne_nil _ (pieces_ne_nil p)]
      rw [joined, wantsDir, wantsDir, last]

theorem same_join {base base' : Path} (equal : same base base' = true) (p : Path) :
    same (join base p) (join base' p) = true := by
  rw [same_iff] at equal ⊢
  cases absolute : isAbsolute p with
  | true => rw [join_absolute base absolute, join_absolute base' absolute]
  | false =>
    by_cases empty : base = ""
    · have empty' : base' = "" := by
        rw [← components_eq_nil, ← equal, components_eq_nil, empty]
      rw [empty, empty']
    · have given : base' ≠ "" := by
        rwa [Ne, ← components_eq_nil, ← equal, components_eq_nil]
      rw [components_join absolute empty, components_join absolute given, equal]

end ModHost.Path
