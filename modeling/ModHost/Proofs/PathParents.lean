import ModHost.Proofs.PathNames

set_option autoImplicit false

/-!
# Parents of paths

The parent of a path has the components of the path without the last. Its text has nothing to trim
at its end, so a name that is put below it has that very text as its parent. A path whose name is
replaced stays in its directory; one without a name gets it as one more component.
-/

namespace ModHost.Path

def ofReversed (cs : List Char) : Path := String.ofList cs.reverse

theorem toList_ofReversed (cs : List Char) : (ofReversed cs).toList = cs.reverse :=
  String.toList_ofList

theorem ofReversed_reverse (p : Path) : ofReversed p.toList.reverse = p := by simp [ofReversed]

theorem ofReversed_separator (rest : List Char) :
    ofReversed ('/' :: rest) = ofReversed rest ++ "/" := by
  rw [← String.toList_inj]
  simp [ofReversed]

theorem ofReversed_point (rest : List Char) :
    ofReversed ('.' :: '/' :: rest) = ofReversed rest ++ "/" ++ "." := by
  rw [← String.toList_inj]
  simp [ofReversed]

theorem ofReversed_eq_empty {cs : List Char} : ofReversed cs = "" ↔ cs = [] := by
  rw [← String.toList_inj]
  simp [ofReversed]

theorem components_trailing {p : Path} (given : p ≠ "") : components (p ++ "/") = components p := by
  rw [components_eq, components_eq, names_trailing, start, start, head?_pieces_trailing,
    isAbsolute_append given]

theorem components_trailing_point (p : Path) :
    components (p ++ "/" ++ ".") = components (p ++ "/") := by
  have given : p ++ "/" ≠ "" := by simp
  rw [components_eq, components_eq, names_append, names_trailing, names_point, List.append_nil,
    start, start, head?_pieces_append, head?_pieces_trailing, isAbsolute_append given]

/-- Whether a text from its end has nothing to trim there. -/
def Trimmed : List Char → Prop
  | ['/'] => True
  | '/' :: _ => False
  | '.' :: '/' :: _ => False
  | _ => True

theorem trimmed_separator {rest : List Char} (trimmed : Trimmed ('/' :: rest)) : rest = [] := by
  cases rest with
  | nil => rfl
  | cons c rest => exact trimmed.elim

theorem trimmed_trimEnd {rooted : Bool} {fuel : Nat} {cs : List Char} (enough : cs.length < fuel) :
    Trimmed (trimEnd rooted fuel cs) := by
  fun_induction trimEnd rooted fuel cs with
  | case1 cs => exact absurd enough (Nat.not_lt_zero _)
  | case2 => trivial
  | case3 => trivial
  | case4 fuel rest _ ih => exact ih (by simpa using enough)
  | case5 fuel rest ih => exact ih (by simpa using enough)
  | case6 fuel cs _ separator point =>
    unfold Trimmed
    split
    · trivial
    · exact separator _ rfl
    · exact point _ rfl
    · trivial

theorem trimEnd_of_trimmed {rooted : Bool} {fuel : Nat} {cs : List Char} (trimmed : Trimmed cs)
    (root : cs = ['/'] → rooted = true) : trimEnd rooted fuel cs = cs := by
  fun_cases trimEnd rooted fuel cs with
  | case1 => rfl
  | case2 => rfl
  | case3 fuel unrooted => exact absurd (root rfl) unrooted
  | case4 fuel rest more =>
    unfold Trimmed at trimmed
    split at trimmed
    · next alone => exact absurd (List.cons.inj alone).2 more
    all_goals simp_all
  | case5 fuel rest => exact trimmed.elim
  | case6 => rfl

theorem trimEnd_suffix (rooted : Bool) (fuel : Nat) (cs : List Char) :
    trimEnd rooted fuel cs <:+ cs := by
  fun_induction trimEnd rooted fuel cs with
  | case1 cs => exact List.suffix_refl cs
  | case2 => exact List.suffix_refl _
  | case3 => exact List.nil_suffix
  | case4 fuel rest _ ih => exact ih.trans (List.suffix_cons '/' rest)
  | case5 fuel rest ih => exact ih.trans (List.suffix_cons '.' _)
  | case6 fuel cs => exact List.suffix_refl cs

/-- What remains of a text from its start is absolute when the text is. -/
theorem isAbsolute_of_suffix {rest cs : List Char} (part : rest <:+ cs) (given : rest ≠ []) :
    isAbsolute (ofReversed cs) = isAbsolute (ofReversed rest) := by
  obtain ⟨cut, rfl⟩ := part
  have text : ofReversed (cut ++ rest) = ofReversed rest ++ ofReversed cut := by
    rw [← String.toList_inj]
    simp [ofReversed]
  rw [text, isAbsolute_append (by rwa [Ne, ofReversed_eq_empty])]

theorem components_trimEnd {rooted : Bool} {fuel : Nat} {cs : List Char}
    (root : cs ≠ [] → rooted = isAbsolute (ofReversed cs)) :
    components (ofReversed (trimEnd rooted fuel cs)) = components (ofReversed cs) := by
  fun_induction trimEnd rooted fuel cs with
  | case1 => rfl
  | case2 => rfl
  | case3 fuel unrooted =>
    exact absurd ((root (by simp)).trans isAbsolute_separator) unrooted
  | case4 fuel rest more ih =>
    have given : rest ≠ [] := fun empty => more empty
    rw [ih, ofReversed_separator, components_trailing (by rwa [Ne, ofReversed_eq_empty])]
    intro _
    rw [root (by simp), isAbsolute_of_suffix (List.suffix_cons '/' rest) given]
  | case5 fuel rest ih =>
    rw [ih, ofReversed_point, ofReversed_separator, components_trailing_point]
    intro _
    rw [root (by simp), isAbsolute_of_suffix (List.suffix_cons '.' _) (by simp)]
  | case6 => rfl

theorem components_append_step (b : String) {c : String} (step : IsStep c) :
    components (b ++ "/" ++ c) = components (b ++ "/") ++ [c] := by
  have given : b ++ "/" ≠ "" := by simp
  rw [components_eq, components_eq, names_append, names_trailing, step.names_eq, start, start,
    head?_pieces_append, head?_pieces_trailing, isAbsolute_append given, List.append_assoc]

theorem components_single {p : Path} (single : '/' ∉ p.toList) (given : p ≠ "") :
    components p = [p] := by
  by_cases point : p = "."
  · rw [point, components_point]
  · have step : IsStep p := ⟨single, given, point⟩
    rw [components_eq, step.start_eq, step.names_eq, List.nil_append]

/-- What a trimmed text has behind its last separator is a step, unless the text is the root. -/
theorem Trimmed.isStep {n r : List Char} {c : String} (trimmed : Trimmed (n ++ '/' :: r))
    (single : '/' ∉ n) (last : (components (ofReversed (n ++ '/' :: r))).getLast? = some c)
    (notRoot : c ≠ "/") : IsStep (ofReversed n) := by
  refine ⟨by simpa [toList_ofReversed] using single, ?given, ?moves⟩
  case given =>
    rw [Ne, ofReversed_eq_empty]
    rintro rfl
    have root : ofReversed ['/'] = "/" := rfl
    rw [List.nil_append, trimmed_separator trimmed, root, components_separator] at last
    exact notRoot (Option.some.inj last).symm
  case moves =>
    intro point
    have alone : n = ['.'] := by
      rw [← List.reverse_inj, ← toList_ofReversed, point]
      rfl
    subst alone
    exact trimmed

/-- A trimmed text ends in its last component, behind a separator unless it is the only one. -/
theorem split_trimmed {cs : List Char} {c : String} (trimmed : Trimmed cs)
    (last : (components (ofReversed cs)).getLast? = some c) (notRoot : c ≠ "/") :
    ∃ rest, cs = c.toList.reverse ++ rest ∧
      components (ofReversed cs) = components (ofReversed rest) ++ [c] := by
  by_cases separated : '/' ∈ cs
  · obtain ⟨n, r, rfl, single⟩ := List.eq_append_cons_of_mem separated
    have text : ofReversed (n ++ '/' :: r) = ofReversed r ++ "/" ++ ofReversed n := by
      rw [← String.toList_inj]
      simp [ofReversed]
    have step : IsStep (ofReversed n) := trimmed.isStep single last notRoot
    have components := components_append_step (ofReversed r) step
    rw [text, components, List.getLast?_concat] at last
    cases last
    refine ⟨'/' :: r, by rw [toList_ofReversed, List.reverse_reverse], ?_⟩
    rw [text, components, ofReversed_separator]
  · have given : ofReversed cs ≠ "" := by
      intro empty
      rw [empty, components_empty] at last
      cases last
    have single := components_single (by simpa [toList_ofReversed] using separated) given
    rw [single, List.getLast?_singleton] at last
    cases last
    refine ⟨[], by simp [toList_ofReversed], ?_⟩
    rw [single]
    rfl

/-- Trimming a text that ends where the path does, or before. -/
def trimIn (p : Path) : List Char → List Char := trimEnd (isAbsolute p) (p.toList.length + 1)

theorem parent?_last {p : Path} {c : String} (last : (components p).getLast? = some c)
    (notRoot : c ≠ "/") :
    parent? p = some (ofReversed (trimIn p ((trimIn p p.toList.reverse).drop c.length))) := by
  unfold parent?
  rw [last]
  split
  · next none => cases none
  · next root => exact absurd (Option.some.inj root) notRoot
  · next same =>
    cases same
    rfl

/-- The parent has all components but the last, and nothing to trim. -/
theorem parent?_eq {p : Path} {c : String} (last : (components p).getLast? = some c)
    (notRoot : c ≠ "/") :
    ∃ d, parent? p = some d ∧ components p = components d ++ [c] ∧ Trimmed d.toList.reverse := by
  have self := ofReversed_reverse p
  have enough : p.toList.reverse.length < p.toList.length + 1 := by simp
  have parent := parent?_last last notRoot
  generalize body : trimIn p p.toList.reverse = cs at parent
  have suffix : cs <:+ p.toList.reverse := body ▸ trimEnd_suffix _ _ _
  have whole : components (ofReversed cs) = components p := by
    rw [← body, trimIn, components_trimEnd (fun _ => by rw [self]), self]
  obtain ⟨rest, rfl, split⟩ := split_trimmed (body ▸ trimmed_trimEnd enough) (whole ▸ last) notRoot
  have part : rest <:+ p.toList.reverse := (List.suffix_append _ _).trans suffix
  rw [List.drop_left' (List.length_reverse.trans String.length_toList)] at parent
  refine ⟨_, parent, ?_, ?_⟩
  · rw [← whole, split, trimIn, components_trimEnd]
    intro given
    rw [← isAbsolute_of_suffix part given, self]
  · rw [toList_ofReversed, List.reverse_reverse]
    exact trimmed_trimEnd (Nat.lt_of_le_of_lt part.length_le enough)

theorem IsStep.trimmed {c : String} (step : IsStep c) (rest : List Char) :
    Trimmed (c.toList.reverse ++ rest) ∧ c.toList.reverse ++ rest ≠ ['/'] := by
  obtain ⟨single, given, moves⟩ := step
  have single : '/' ∉ c.toList.reverse := by simpa using single
  generalize cs : c.toList.reverse = r at single
  cases r with
  | nil => exact absurd (by simpa using cs) given
  | cons first r =>
    have other : first ≠ '/' := fun same => single (same ▸ List.mem_cons_self)
    refine ⟨?_, fun same => other (List.cons.inj same).1⟩
    unfold Trimmed
    split
    · trivial
    · next same => exact other (List.cons.inj same).1
    · next same =>
      obtain ⟨point, same⟩ := List.cons.inj same
      cases r with
      | nil =>
        refine moves ?_
        rw [← String.toList_inj, ← List.reverse_inj, cs, point]
        rfl
      | cons second r => exact single ((List.cons.inj same).1 ▸ by simp)
    · trivial

theorem parent?_join {d : Path} {c : String} (trimmed : Trimmed d.toList.reverse)
    (step : IsStep c) : parent? (join d c) = some d := by
  have self := ofReversed_reverse d
  have last : (components (join d c)).getLast? = some c := by
    rw [components_join_step d step, List.getLast?_concat]
  have ends : ∃ rest, (join d c).toList.reverse = c.toList.reverse ++ rest ∧
      trimIn (join d c) rest = d.toList.reverse := by
    obtain ⟨rfl, joined⟩ | ⟨given, b, rfl | rfl, joined⟩ :=
      join_cases d (not_isAbsolute_of_single step.single)
    · exact ⟨[], by simp [joined], by simp [trimIn, trimEnd]⟩
    · have root : b = "" := by
        rw [String.toList_append, List.reverse_append] at trimmed
        simpa using trimmed_separator trimmed
      subst root
      refine ⟨['/'], by rw [joined]; simp, ?_⟩
      have absolute : isAbsolute (join ("" ++ "/") c) = true := by
        rw [joined, isAbsolute_iff]
        simp
      rw [trimIn, absolute]
      rfl
    · refine ⟨'/' :: d.toList.reverse, by simp [joined], ?_⟩
      rw [trimIn, trimEnd]
      · refine trimEnd_of_trimmed trimmed fun root => ?_
        rw [joined, String.append_assoc, isAbsolute_append given, ← self, root]
        exact isAbsolute_separator
      · simpa using given
  obtain ⟨rest, text, trim⟩ := ends
  obtain ⟨untouched, other⟩ := step.trimmed rest
  have parent := parent?_last last step.notRoot
  rw [text, trimIn, trimEnd_of_trimmed untouched (fun root => absurd root other),
    List.drop_left' (List.length_reverse.trans String.length_toList)] at parent
  rw [parent, ← trimIn, trim, self]

theorem fileName?_eq_some {p : Path} {name : String} :
    fileName? p = some name ↔ (components p).getLast? = some name ∧ isName name = true := by
  unfold fileName?
  cases (components p).getLast? with
  | none => simp
  | some c =>
    by_cases named : isName c = true
    · simp only [named, if_true, Option.some.injEq, iff_self_and]
      rintro rfl
      exact named
    · simp only [named, Bool.false_eq_true, if_false, Option.some.injEq, false_iff, not_and,
        reduceCtorEq]
      rintro rfl
      exact named

theorem isStep_of_fileName? {p : Path} {name : String} (named : fileName? p = some name) :
    IsStep name ∧ name ≠ ".." := by
  obtain ⟨last, isName⟩ := fileName?_eq_some.1 named
  simp only [Path.isName, ne_eq, Bool.and_eq_true, decide_eq_true_eq] at isName
  obtain ⟨⟨notRoot, moves⟩, notUp⟩ := isName
  have mem : name ∈ names p := by
    rw [names_eq, List.mem_filter]
    exact ⟨List.mem_of_getLast? last, by simp [notRoot, moves]⟩
  exact ⟨isStep_of_mem_names mem, notUp⟩

/-- A path with a name is this name in a directory, and another name replaces it there. -/
theorem withFileName_named {p : Path} {name : String} (named : fileName? p = some name) :
    ∃ d, parent? p = some d ∧ components p = components d ++ [name] ∧
      Trimmed d.toList.reverse ∧ ∀ other, withFileName p other = join d other := by
  obtain ⟨last, isName⟩ := fileName?_eq_some.1 named
  have notRoot : name ≠ "/" := by
    rintro rfl
    cases isName
  obtain ⟨d, parent, components, trimmed⟩ := parent?_eq last notRoot
  refine ⟨d, parent, components, trimmed, fun other => ?_⟩
  simp [withFileName, named, parent]

theorem withFileName_unnamed {p : Path} (unnamed : fileName? p = none) (other : String) :
    withFileName p other = join p other := by
  rw [withFileName, unnamed]

end ModHost.Path
