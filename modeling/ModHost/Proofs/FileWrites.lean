import ModHost.Proofs.FilePlaces

set_option autoImplicit false

/-!
# Written files

A write replaces one file, or adds one to a directory that is there. It changes no directory into
anything else, and nothing into one, so every path leads where it led before: what was written is
found, and every other file is the same.
-/

namespace ModHost

namespace Files

variable {f f' : Files} {names ns : Place} {n : FileNode} {p q : Path}

theorem node?_of_ne (inside : ns ≠ []) :
    f.node? ns = (f.nodes.find? (·.1 = ns)).map (·.2) := by
  cases ns with
  | nil => exact absurd rfl inside
  | cons a rest => rfl

theorem find?_map_nodes {g : Place × FileNode → Place × FileNode}
    (keeps : ∀ e, (g e).1 = e.1) (nodes : List (Place × FileNode)) :
    (nodes.map g).find? (·.1 = ns) = (nodes.find? (·.1 = ns)).map g := by
  rw [List.find?_map]
  congr 2
  funext e
  simp only [Function.comp_apply, keeps]

/-- What is at a place is the same after such a change, if the node there has the same content. -/
theorem at?_map {g : Place × FileNode → Place × FileNode}
    (nodes : f'.nodes = f.nodes.map g) (keeps : ∀ e, (g e).1 = e.1)
    (same : ∀ old, (g (ns, old)).2.content? = old.content?) : f'.at? ns = f.at? ns := by
  by_cases root : ns = []
  · subst root
    rfl
  · rw [at?, at?, node?_of_ne root, node?_of_ne root, nodes, find?_map_nodes keeps]
    cases found : f.nodes.find? (·.1 = ns) with
    | none => rfl
    | some e =>
      obtain ⟨k, old⟩ := e
      have key := List.find?_some found
      have here : k = ns := of_decide_eq_true key
      subst here
      exact congrArg some (same old)

theorem at?_touchDir (parent : Place) : (f.touchDir parent).at? ns = f.at? ns := by
  cases parent with
  | nil => exact at?_map (List.map_id _).symm (fun _ => rfl) (fun _ => rfl)
  | cons a up =>
    refine at?_map rfl (fun ⟨k, old⟩ => ?_) (fun old => ?_)
    · dsimp only
      split
      · split <;> rfl
      · rfl
    · cases old with
      | file content modified => rfl
      | dir c =>
        dsimp only
        split <;> rfl

theorem replace_keeps (names : Place) (n : FileNode) (e : Place × FileNode) :
    ((fun (k, old) => if k = names then (k, n) else (k, old)) e).1 = e.1 := by
  obtain ⟨k, old⟩ := e
  dsimp only
  split <;> rfl

theorem at?_put (other : ns ≠ names) : (f.put names n).at? ns = f.at? ns := by
  unfold put
  split
  · exact at?_map rfl (replace_keeps names n) fun old => by simp [other]
  · rw [← at?_touchDir (f := f) names.dropLast]
    by_cases root : ns = []
    · subst root
      rfl
    · have elsewhere : ¬ names = ns := fun same => other same.symm
      rw [at?, at?, node?_of_ne root, node?_of_ne root, List.find?_append]
      simp [elsewhere]

theorem node?_put (inside : names ≠ []) : (f.put names n).node? names = some n := by
  unfold put
  split
  · next there =>
    obtain ⟨e, he, same⟩ := List.any_eq_true.1 there
    rw [node?_of_ne inside, find?_map_nodes (replace_keeps names n)]
    cases found : f.nodes.find? (·.1 = names) with
    | none => exact absurd same (List.find?_eq_none.1 found e he)
    | some e =>
      obtain ⟨k, old⟩ := e
      have key := List.find?_some found
      have same : k = names := of_decide_eq_true key
      simp only [Option.map_some, same, ↓reduceIte]
  · next absent =>
    have missing : f.nodes.find? (·.1 = names) = none :=
      List.find?_eq_none.2 fun e he same => absent (List.any_eq_true.2 ⟨e, he, same⟩)
    have still : (f.touchDir names.dropLast).at? names = none := by
      rw [at?_touchDir, at?, node?_of_ne inside, missing]
      rfl
    rw [at?, node?_of_ne inside, Option.map_map, Option.map_eq_none_iff] at still
    rw [node?_of_ne inside, List.find?_append, still]
    simp

theorem working_put (f : Files) (names : Place) (n : FileNode) :
    (f.put names n).working = f.working := by
  have touched (parent : Place) : (f.touchDir parent).working = f.working := by
    cases parent <;> rfl
  unfold put
  split
  · rfl
  · exact touched names.dropLast

theorem ne_nil_of_file (file : f.isDir names = false) : names ≠ [] := by
  rintro rfl
  cases file

theorem write_located {wantsDir : Bool} {content : ByteArray} {modified : Int}
    (located : f.locate p = .ok (names, wantsDir)) :
    f.write p content modified =
      match f.node? names with
      | some (.dir _) => throw .isDirectory
      | _ =>
        if wantsDir then throw .isDirectory
        else match f.node? names.dropLast with
          | some (.dir _) => pure (f.put names (.file content modified))
          | some (.file _ _) => throw .notDirectory
          | none => throw .notFound := by
  unfold write
  rw [located]
  rfl

theorem write_eq_put {content : ByteArray} {modified : Int}
    (wrote : f.write p content modified = .ok f') :
    ∃ names, f.locate p = .ok (names, false) ∧ f.isDir names = false ∧
      f' = f.put names (.file content modified) := by
  cases located : f.locate p with
  | error e =>
    unfold write at wrote
    rw [located] at wrote
    cases wrote
  | ok found =>
    obtain ⟨names, wantsDir⟩ := found
    rw [write_located located] at wrote
    have file : f.isDir names = false := by
      unfold isDir
      split
      · next c dir =>
        rw [dir] at wrote
        cases wrote
      · rfl
    have made : wantsDir = false ∧ f' = f.put names (.file content modified) := by
      split at wrote
      · cases wrote
      · cases wantsDir with
        | true => cases wrote
        | false =>
          rw [if_neg Bool.false_ne_true] at wrote
          split at wrote
          · cases wrote
            exact ⟨rfl, rfl⟩
          · cases wrote
          · cases wrote
    obtain ⟨rfl, rfl⟩ := made
    exact ⟨names, rfl, file, rfl⟩

section Written

variable {content : ByteArray} {modified : Int} (wrote : f.write q content modified = .ok f')

include wrote

theorem locate_write (p : Path) : (f'.locate p).toOption = (f.locate p).toOption := by
  obtain ⟨names, located, file, rfl⟩ := write_eq_put wrote
  refine locate_congr (fun ns => ?_) (working_put f names _) p
  by_cases here : ns = names
  · rw [here, file, isDir, node?_put (ne_nil_of_file file)]
  · rw [isDir_eq, isDir_eq, at?_put here]

theorem locate_write_ok {found : Place × Bool} :
    f'.locate p = .ok found ↔ f.locate p = .ok found := by
  have same := locate_write wrote p
  cases before : f.locate p <;> cases after : f'.locate p <;> simp_all [Except.toOption]

theorem lookup_write : f'.lookup q = .ok (.file content modified) := by
  obtain ⟨names, located, file, put⟩ := write_eq_put wrote
  refine lookup_located ((locate_write_ok wrote).2 located) ?_
  rw [put, node?_put (ne_nil_of_file file)]

theorem fileAt_write (changed : f'.fileAt ns ≠ f.fileAt ns) :
    f.locate q = .ok (ns, false) := by
  obtain ⟨names, located, -, rfl⟩ := write_eq_put wrote
  by_cases here : ns = names
  · rw [here]
    exact located
  · rw [fileAt_eq, fileAt_eq, at?_put here] at changed
    exact absurd rfl changed

theorem file?_write
    (apart : ∀ ns, f.locate q = .ok (ns, false) → f.locate p ≠ .ok (ns, false)) :
    f'.file? p = f.file? p := by
  refine Option.ext fun file => ?_
  rw [file?_located, file?_located]
  refine exists_congr fun ns => ?_
  rw [locate_write_ok wrote, and_congr_right_iff]
  intro leads
  by_cases same : f'.fileAt ns = f.fileAt ns
  · rw [same]
  · exact absurd leads (apart ns (fileAt_write wrote same))

theorem isSome_file?_write (there : (f.file? p).isSome = true) : (f'.file? p).isSome = true := by
  by_cases same : ∃ ns, f.locate q = .ok (ns, false) ∧ f.locate p = .ok (ns, false)
  · obtain ⟨ns, leads, leads'⟩ := same
    have found := file?_eq_some.2 (lookup_write wrote)
    obtain ⟨ns', located, file⟩ := file?_located.1 found
    rw [(locate_write_ok wrote).2 leads] at located
    cases located
    exact Option.isSome_of_eq_some (file?_located.2 ⟨ns, (locate_write_ok wrote).2 leads', file⟩)
  · rwa [file?_write wrote fun ns leads leads' => same ⟨ns, leads, leads'⟩]

end Written

end Files

end ModHost
