import Handoff.Files.Project
import Handoff.Proofs.Text.Split

/-!
# Where projects are written

A file of a project is written where the path of its name inside the folder leads. A name without slashes
leads into the folder itself; only a name with slashes can lead elsewhere. Writing changes no other file,
and no folder once the folder of the project is there.
-/

namespace Handoff

/-! ## Paths -/

namespace Path

/-- The parts of a path that was joined with a slash. -/
theorem parts_join_slash (before rest : String) :
    parts (before ++ "/" ++ rest) = parts before ++ parts rest := by
  have chars : (before ++ "/" ++ rest).toList = before.toList ++ '/' :: rest.toList := by simp
  rw [parts, chars, Text.splitOnChar_append, List.map_append, parts, parts]

/-- A name without slashes is one part. -/
theorem parts_of_not_mem {name : String} (flat : '/' ∉ name.toList) : parts name = [name] := by
  rw [parts, Text.splitOnChar_of_not_mem flat, List.map_singleton, String.ofList_toList]

/-- A name without slashes is relative. -/
theorem isAbsolute_of_not_mem {name : String} (flat : '/' ∉ name.toList) : isAbsolute name = false := by
  rw [isAbsolute, beq_eq_false_iff_ne]
  exact fun h => flat (List.mem_of_head? h)

end Path

/-! ## Places -/

namespace FileTree

variable {t t' : FileTree} {p q : Place}

/-- Whether a place is directly inside a folder. -/
def DirectlyIn (t : FileTree) (folder : String) (p : Place) : Prop :=
  ∃ q name, t.enterAll (t.origin folder) (Path.parts folder) = .ok q ∧ p = q ++ [name]

/-- Following names to a folder goes on from where the first of them lead. -/
theorem enterAll_append (t : FileTree) (p : Place) (l₁ l₂ : List String) :
    t.enterAll p (l₁ ++ l₂) = (t.enterAll p l₁).bind (t.enterAll · l₂) := by
  induction l₁ generalizing p with
  | nil => rfl
  | cons name rest ih =>
    rw [List.cons_append, enterAll, enterAll]
    cases t.enter p name with
    | error e => rfl
    | ok p' => exact ih p'

/-- Following names to a place enters all but the last. -/
theorem enterAll_of_follow {names : List String} {name : String}
    (regular : staysHere name = false ∧ name ≠ "..") (h : t.follow p (names ++ [name]) = .ok q) :
    ∃ q', t.enterAll p names = .ok q' ∧ q = q' ++ [name] := by
  induction names generalizing p with
  | nil =>
    have ordinary : ¬ (staysHere name = true ∨ name = "..") := by simp [regular.1, regular.2]
    rw [List.nil_append, follow, if_neg ordinary] at h
    split at h
    · cases h
    · cases h
      exact ⟨p, rfl, rfl⟩
  | cons first rest ih =>
    have more : rest ++ [name] ≠ [] := by simp
    rw [List.cons_append, follow.eq_3 _ _ _ _ more] at h
    rw [enterAll]
    cases entered : t.enter p first with
    | error e =>
      rw [entered] at h
      cases h
    | ok p' =>
      rw [entered] at h
      exact ih h

/-- A path leads where its parts lead, unless it is no path. -/
theorem locate_eq_ok_iff {path : String} : t.locate path = .ok p ↔
    ¬ holdsNul path = true ∧ ¬ isOverlong path = true ∧ ¬ path.isEmpty = true ∧
      t.follow (t.origin path) (Path.parts path) = .ok p := by
  unfold locate
  split
  · next nul => simp [nul]
  · next nul =>
    split
    · next long => simp [long]
    · next long =>
      split
      · next empty => simp [empty]
      · next empty => simp [nul, long, empty]

private theorem origin_append (t : FileTree) {folder : String} (some : folder ≠ "") (rest : String) :
    t.origin (folder ++ rest) = t.origin folder := by
  have first : (folder ++ rest).toList.head? = folder.toList.head? := by
    cases chars : folder.toList with
    | nil => exact absurd (String.toList_eq_nil_iff.1 chars) some
    | cons c rest => simp [chars]
  rw [origin, origin, Path.isAbsolute, Path.isAbsolute, first]

/-- A name without slashes leads into the folder. -/
theorem directlyIn_of_locate {folder name : String} (flat : '/' ∉ name.toList)
    (regular : staysHere name = false ∧ name ≠ "..") (h : t.locate (Path.join folder name) = .ok p) :
    t.DirectlyIn folder p := by
  obtain ⟨-, -, -, h⟩ := locate_eq_ok_iff.1 h
  have relative := Path.isAbsolute_of_not_mem flat
  have leaf := Path.parts_of_not_mem flat
  by_cases empty : folder = ""
  · subst empty
    have alone : Path.join "" name = name := by simp [Path.join]
    rw [alone, leaf, origin, relative, ← List.nil_append [name]] at h
    obtain ⟨q, entered, rfl⟩ := enterAll_of_follow regular h
    cases entered
    exact ⟨t.here, name, rfl, rfl⟩
  have some : folder.isEmpty = false := by simpa using empty
  rw [Path.join, relative, some, Bool.or_false, if_neg Bool.false_ne_true] at h
  split at h
  · next slash =>
    -- A folder that ends in a slash has an empty last part, which leads nowhere else.
    obtain ⟨shorter, rfl⟩ : ∃ shorter, folder = shorter ++ "/" := by
      obtain ⟨chars, hchars⟩ := List.getLast?_eq_some_iff.1 slash
      exact ⟨String.ofList chars, by rw [← String.toList_inj, hchars]; simp⟩
    have parts : Path.parts (shorter ++ "/") = Path.parts shorter ++ [""] := by
      have trailing := Path.parts_join_slash shorter ""
      rwa [String.append_empty] at trailing
    rw [t.origin_append empty, Path.parts_join_slash, leaf] at h
    obtain ⟨q, entered, rfl⟩ := enterAll_of_follow regular h
    refine ⟨q, name, ?_, rfl⟩
    rw [parts, enterAll_append, entered]
    rfl
  · rw [Path.parts_join_slash, leaf, String.append_assoc, t.origin_append empty] at h
    obtain ⟨q, entered, rfl⟩ := enterAll_of_follow regular h
    exact ⟨q, name, entered, rfl⟩

end FileTree

/-! ## Writing -/

namespace FileTree

variable {t t' : FileTree} {p q : Place}

/-- Whether trees have the same folders and the same working folder. -/
def SameFolders (t t' : FileTree) : Prop := t'.folders = t.folders ∧ t'.here = t.here

private theorem enter_ok (same : t.SameFolders t') {name : String} (h : t'.enter p name = .ok q) :
    t.enter p name = .ok q := by
  have folder : t'.isFolder (p ++ [name]) = t.isFolder (p ++ [name]) := by
    rw [isFolder, isFolder, same.1]
  by_cases stays : staysHere name = true
  · rw [enter, if_pos stays] at h ⊢
    exact h
  by_cases up : name = ".."
  · rw [enter, if_neg stays, if_pos up] at h ⊢
    exact h
  by_cases long : isTooLong name = true
  · rw [enter, if_neg stays, if_neg up, if_pos long] at h
    cases h
  by_cases inside : t.isFolder (p ++ [name]) = true
  · rw [enter, if_neg stays, if_neg up, if_neg long, folder, if_pos inside] at h
    rw [enter, if_neg stays, if_neg up, if_neg long, if_pos inside]
    exact h
  · rw [enter, if_neg stays, if_neg up, if_neg long, folder, if_neg inside] at h
    split at h <;> cases h

private theorem follow_ok (same : t.SameFolders t') {names : List String}
    (h : t'.follow p names = .ok q) : t.follow p names = .ok q := by
  induction names generalizing p with
  | nil => exact h
  | cons name rest ih =>
    cases rest with
    | nil =>
      unfold follow at h ⊢
      split at h
      · next special =>
        rw [if_pos special]
        exact enter_ok same h
      · next special =>
        rw [if_neg special]
        exact h
    | cons second rest =>
      rw [follow.eq_3 _ _ _ _ (List.cons_ne_nil _ _)] at h ⊢
      cases entered : t'.enter p name with
      | error e =>
        rw [entered] at h
        cases h
      | ok p' =>
        rw [entered] at h
        rw [enter_ok same entered]
        exact ih h

/-- Where a path leads does not depend on the files. -/
theorem locate_ok (same : t.SameFolders t') {path : String} (h : t'.locate path = .ok p) :
    t.locate path = .ok p := by
  obtain ⟨nul, long, empty, led⟩ := locate_eq_ok_iff.1 h
  have start : t'.origin path = t.origin path := by rw [origin, origin, same.2]
  rw [start] at led
  exact locate_eq_ok_iff.2 ⟨nul, long, empty, follow_ok same led⟩

/-- Whether a tree differs from another one at most in files where paths lead. -/
structure WritesAt (paths : List String) (t t' : FileTree) : Prop where
  folders : t.SameFolders t'
  files : ∀ p, t'.file? p ≠ t.file? p → ∃ path ∈ paths, t.locate path = .ok p

/-- A tree is as itself. -/
theorem WritesAt.refl (paths : List String) (t : FileTree) : WritesAt paths t t :=
  ⟨⟨rfl, rfl⟩, fun _ h => absurd rfl h⟩

/-- Writes one after the other. -/
theorem WritesAt.trans {t₁ : FileTree} {path : String} {paths : List String} (first : WritesAt [path] t t₁)
    (rest : WritesAt paths t₁ t') : WritesAt (path :: paths) t t' where
  folders := ⟨rest.folders.1.trans first.folders.1, rest.folders.2.trans first.folders.2⟩
  files p changed := by
    by_cases later : t'.file? p = t₁.file? p
    · rw [later] at changed
      obtain ⟨path', mem, led⟩ := first.files p changed
      exact ⟨path', List.mem_cons.2 (.inl (List.mem_singleton.1 mem)), led⟩
    · obtain ⟨path', mem, led⟩ := rest.files p later
      exact ⟨path', List.mem_cons_of_mem _ mem, locate_ok first.folders led⟩

private theorem lookup_filter_ne {files : List (Place × Bytes)} (other : p ≠ q) :
    (files.filter (·.1 ≠ q)).lookup p = files.lookup p := by
  induction files with
  | nil => rfl
  | cons e files ih =>
    by_cases gone : e.1 = q
    · rw [List.filter_cons_of_neg (by simpa using gone), ih, List.lookup_cons,
        beq_eq_false_iff_ne.2 (gone ▸ other)]
    · rw [List.filter_cons_of_pos (by simpa using gone), List.lookup_cons, List.lookup_cons, ih]

/-- Writing a text changes the file where the path leads. -/
theorem writesAt_writeText {path text : String} (h : t.writeText path text = .ok t') :
    WritesAt [path] t t' := by
  unfold writeText at h
  split at h
  · cases h
  · next place led =>
    split at h
    · cases h
    · cases h
      refine ⟨⟨rfl, rfl⟩, fun p changed => ⟨path, List.mem_singleton_self path, ?_⟩⟩
      by_cases other : p = place
      · rw [other, led]
      · refine absurd ?_ changed
        show (t.files.filter (·.1 ≠ place) ++ [(place, Bytes.ofText text)]).lookup p = t.files.lookup p
        rw [List.lookup_append, lookup_filter_ne other, List.lookup_cons, beq_eq_false_iff_ne.2 other]
        simp

private theorem files_makeAll {names : List String} (h : t.makeAll p names = .ok t') :
    t'.files = t.files := by
  induction names generalizing t p with
  | nil =>
    cases h
    rfl
  | cons name rest ih =>
    rw [makeAll] at h
    cases entered : t.enter p name with
    | ok q =>
      rw [entered] at h
      exact ih h
    | error fault =>
      rw [entered] at h
      cases fault with
      | notFound =>
        exact (ih h :)
      | _ => cases h

/-- Making folders changes no file. -/
theorem files_makeFolders {path : String} (h : t.makeFolders path = .ok t') : t'.files = t.files := by
  unfold makeFolders at h
  simp only at h
  split at h
  · cases h
  split at h
  · cases h
  split at h
  · exact files_makeAll h
  · split at h
    · cases h
    · next tree made =>
      cases entered : tree.enterAll (tree.origin path) (Path.parts path) with
      | error fault =>
        rw [entered] at h
        cases h
      | ok q =>
        rw [entered] at h
        cases h
        exact files_makeAll made

end FileTree

namespace Host

/-- An activity goes on with its result on the desk that it leaves, unless it fails. -/
theorem run_bind {α β : Type} (act : Act (StateM Desk) α) (next : α → Act (StateM Desk) β) (desk : Desk) :
    (act >>= next).run desk =
      match act.run desk with
      | (.ok a, desk) => (next a).run desk
      | (.error e, desk) => (.error e, desk) := by
  simp only [bind, ExceptT.run, ExceptT.bind, ExceptT.mk, StateT.bind]
  cases act desk with
  | mk result desk => cases result <;> rfl

/-- Change the tree of a desk, if it can be changed. -/
private def changing (change : FileTree → Except FileFault FileTree) : StateM Desk (Except FileFault Unit) :=
  do Desk.settle (change (← get).tree)

private theorem run_changing (change : FileTree → Except FileFault FileTree) (desk : Desk) :
    (do match ← changing change with
        | .ok () => return
        | .error _ => throw .inputOutput : Act (StateM Desk) Unit).run desk =
      match change desk.tree with
      | .ok tree => (.ok (), { desk with tree })
      | .error _ => (.error .inputOutput, desk) := by
  have lifted : (liftM (changing change) : Act (StateM Desk) (Except FileFault Unit)).run desk =
      (.ok (Desk.settle (change desk.tree) desk).1, (Desk.settle (change desk.tree) desk).2) := rfl
  rw [run_bind, lifted]
  cases change desk.tree <;> rfl

/-- Writing a file changes the tree, or fails and leaves the desk as it is. -/
theorem run_write (path text : String) (desk : Desk) : (Desk.host.write path text).run desk =
    match desk.tree.writeText path text with
    | .ok tree => (.ok (), { desk with tree })
    | .error _ => (.error .inputOutput, desk) :=
  run_changing (·.writeText path text) desk

/-- Making a folder changes the tree, or fails and leaves the desk as it is. -/
theorem run_make (path : String) (desk : Desk) : (Desk.host.make path).run desk =
    match desk.tree.makeFolders path with
    | .ok tree => (.ok (), { desk with tree })
    | .error _ => (.error .inputOutput, desk) :=
  run_changing (·.makeFolders path) desk

/-- Write files into a folder one after the other. -/
private def writeEach (folder : String) (files : List (String × String)) : Act (StateM Desk) Unit :=
  files.forM fun (name, text) => Desk.host.write (Path.join folder name) text

private theorem run_writeEach_cons (folder name text : String) (rest : List (String × String)) (desk : Desk) :
    (writeEach folder ((name, text) :: rest)).run desk =
      match desk.tree.writeText (Path.join folder name) text with
      | .ok tree => (writeEach folder rest).run { desk with tree }
      | .error _ => (.error .inputOutput, desk) := by
  have first : writeEach folder ((name, text) :: rest) =
      Desk.host.write (Path.join folder name) text >>= fun _ => writeEach folder rest := rfl
  rw [first, run_bind, run_write]
  cases desk.tree.writeText (Path.join folder name) text <;> rfl

private theorem writesAt_writeEach (folder : String) (files : List (String × String)) (desk : Desk) :
    FileTree.WritesAt (files.map fun file => Path.join folder file.1) desk.tree
      ((writeEach folder files).run desk).2.tree := by
  induction files generalizing desk with
  | nil => exact .refl [] desk.tree
  | cons file rest ih =>
    obtain ⟨name, text⟩ := file
    rw [run_writeEach_cons]
    cases written : desk.tree.writeText (Path.join folder name) text with
    | error fault => exact .refl _ _
    | ok tree => exact (FileTree.writesAt_writeText written).trans (ih { desk with tree })

/-- Writing a project makes its folder and writes its files into it. -/
private theorem run_writeProject (folder : String) (o : ProjectOutput) (desk : Desk) :
    ((Desk.host.writeProject folder o).run desk).2 =
      match desk.tree.makeFolders folder with
      | .ok tree => ((writeEach folder o.files).run { desk with tree }).2
      | .error _ => desk := by
  have steps : Desk.host.writeProject folder o =
      Desk.host.make folder >>= fun _ => writeEach folder o.files >>= fun _ => pure o.files.length := rfl
  rw [steps, run_bind, run_make]
  cases desk.tree.makeFolders folder with
  | error fault => rfl
  | ok tree =>
    simp only [run_bind]
    cases (writeEach folder o.files).run { desk with tree } with
    | mk result after => cases result <;> rfl

/-- A file that writing a project changes is where a file of the project is written, once the folder is
there. -/
private theorem exists_file_of_changed {folder : String} {o : ProjectOutput} {desk : Desk} {p : Place}
    (changed : ((Desk.host.writeProject folder o).run desk).2.tree.file? p ≠ desk.tree.file? p) :
    ∃ tree, desk.tree.makeFolders folder = .ok tree ∧
      ∃ file ∈ o.files, tree.locate (Path.join folder file.1) = .ok p := by
  rw [run_writeProject] at changed
  cases made : desk.tree.makeFolders folder with
  | error fault =>
    rw [made] at changed
    exact absurd rfl changed
  | ok tree =>
    rw [made] at changed
    have same : tree.file? p = desk.tree.file? p := by
      rw [FileTree.file?, FileTree.file?, FileTree.files_makeFolders made]
    rw [← same] at changed
    obtain ⟨path, mem, led⟩ := (writesAt_writeEach folder o.files { desk with tree }).files p changed
    obtain ⟨file, hfile, rfl⟩ := List.mem_map.1 mem
    exact ⟨tree, rfl, file, hfile, led⟩

/-- A file that writing a project changes is directly inside its folder, or it is where the path of a module
leads that has a slash in its name. -/
theorem directlyIn_of_changed {folder : String} {o : ProjectOutput} {desk : Desk} {p : Place}
    (changed : ((Desk.host.writeProject folder o).run desk).2.tree.file? p ≠ desk.tree.file? p) :
    ∃ tree, desk.tree.makeFolders folder = .ok tree ∧
      (tree.DirectlyIn folder p ∨ ∃ b ∈ o.bundles.values, '/' ∈ b.name.toList ∧
        tree.locate (Path.join folder (b.name ++ ".tsx")) = .ok p) := by
  obtain ⟨tree, made, file, hfile, led⟩ := exists_file_of_changed changed
  refine ⟨tree, made, ?_⟩
  rcases List.mem_append.1 hfile with hb | fixed
  · obtain ⟨b, listed, rfl⟩ := List.mem_map.1 hb
    by_cases slash : '/' ∈ b.name.toList
    · exact .inr ⟨b, listed, slash, led⟩
    · refine .inl (FileTree.directlyIn_of_locate (by simpa using slash) ?_ led)
      have last : 'x' ∈ (b.name ++ ".tsx").toList := by simp
      have named (text : String) (none : 'x' ∉ text.toList) : b.name ++ ".tsx" ≠ text :=
        fun same => none (same ▸ last)
      exact ⟨by simp [FileTree.staysHere, named "." (by decide)], named ".." (by decide)⟩
  · have names : file.1 = "theme.ts" ∨ file.1 = "index.ts" := by
      rcases List.mem_cons.1 fixed with rfl | fixed
      · exact .inl rfl
      · rw [List.mem_singleton.1 fixed]
        exact .inr rfl
    rcases names with name | name <;> rw [name] at led <;>
      exact .inl (FileTree.directlyIn_of_locate (by decide) (by decide) led)

end Host
end Handoff
