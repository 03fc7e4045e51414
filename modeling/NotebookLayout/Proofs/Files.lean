import NotebookLayout.Files
import NotebookLayout.Proofs.Result

/-!
# Files that were written are read

Writing a file makes the directories that lead to it, so that the same path leads to the file
afterwards. It fails only where the directories cannot be made or the path is not one of a file.

Main statements: `Files.exists_write_iff`, `Files.read_write`.
-/

namespace NotebookLayout

namespace Files

variable {files made : Files} {place dir : Place} {c : Text} {components rest : List Text}

/-! ## One component -/

/-- A directory is made where there is no file, and the rest below it. -/
theorem makeDirectories_cons_eq_ok :
    files.makeDirectories place (c :: rest) = .ok made ↔
      checkName c = .ok () ∧ files.get? (place.enter c) = none ∧
        makeDirectories { files with directories := place.enter c :: files.directories }
          (place.enter c) rest = .ok made := by
  simp [makeDirectories, bind_eq_ok, ite_throw_bind_eq_ok, exists_eq_ok_unit]

/-- A path leads through directories that are there. -/
theorem walk_cons_eq_ok :
    files.walk place (c :: rest) = .ok dir ↔
      checkName c = .ok () ∧ files.isDirectory (place.enter c) = true ∧
        files.walk (place.enter c) rest = .ok dir := by
  cases hdir : files.isDirectory (place.enter c) <;>
    simp [walk, hdir, bind_eq_ok, throw_ne_ok, exists_eq_ok_unit]

/-! ## Directories -/

/-- A directory stays one when more are made. -/
theorem isDirectory_mono (h : files.directories ⊆ made.directories)
    (hplace : files.isDirectory place = true) : made.isDirectory place = true := by
  simp only [isDirectory, Bool.or_eq_true, List.contains_iff_mem] at hplace ⊢
  exact hplace.imp_right fun hmem => h hmem

/-- Paths start in a directory. -/
theorem isDirectory_start (files : Files) (path : Path) : files.isDirectory path.start = true := by
  unfold isDirectory Path.start
  split <;> simp

/-- Where components lead through directories, they lead to one, which is where they lead anyway. -/
theorem walk_eq_ok (h : files.walk place components = .ok dir)
    (hplace : files.isDirectory place = true) :
    dir = components.foldl Place.enter place ∧ files.isDirectory dir = true := by
  induction components generalizing place with
  | nil =>
    obtain rfl := Except.ok.inj h
    exact ⟨rfl, hplace⟩
  | cons c rest ih =>
    obtain ⟨-, hnext, hrest⟩ := walk_cons_eq_ok.1 h
    exact ih hrest hnext

/-- A path leads on from where its beginning leads to. -/
theorem walk_append (h : files.walk place components = .ok dir) :
    files.walk place (components ++ rest) = files.walk dir rest := by
  induction components generalizing place with
  | nil =>
    obtain rfl := Except.ok.inj h
    rfl
  | cons c components ih =>
    obtain ⟨hname, hnext, hrest⟩ := walk_cons_eq_ok.1 h
    rw [List.cons_append, walk, hname, if_pos hnext]
    exact ih hrest

/-- Components that lead nowhere need nothing but the directory that they start at. -/
theorem walk_of_idle (hidle : ∀ c ∈ components, Place.isIdle c = true)
    (hplace : files.isDirectory place = true) : files.walk place components = .ok place := by
  induction components with
  | nil => rfl
  | cons c rest ih =>
    obtain ⟨hc, hrest⟩ := List.forall_mem_cons.1 hidle
    have hname : checkName c = .ok () := by
      rcases (by simpa [Place.isIdle] using hc : c = [] ∨ c = ['.']) with rfl | rfl <;> rfl
    have hnext : place.enter c = place := if_pos hc
    rw [walk_cons_eq_ok, hnext]
    exact ⟨hname, hplace, ih hrest⟩

/-- No directory is lost. -/
theorem directories_subset_of_makeDirectories
    (h : files.makeDirectories place components = .ok made) :
    files.directories ⊆ made.directories := by
  induction components generalizing files place with
  | nil =>
    obtain rfl := Except.ok.inj h
    exact List.Subset.refl _
  | cons c rest ih =>
    obtain ⟨-, -, hrest⟩ := makeDirectories_cons_eq_ok.1 h
    exact fun p hp => ih hrest (List.mem_cons_of_mem _ hp)

/-- Components lead through the directories that were made for them. -/
theorem walk_of_makeDirectories (h : files.makeDirectories place components = .ok made) :
    made.walk place components = .ok (components.foldl Place.enter place) := by
  induction components generalizing files place with
  | nil => rfl
  | cons c rest ih =>
    obtain ⟨hname, -, hrest⟩ := makeDirectories_cons_eq_ok.1 h
    refine walk_cons_eq_ok.2 ⟨hname, ?_, ih hrest⟩
    refine isDirectory_mono (directories_subset_of_makeDirectories hrest) ?_
    simp [isDirectory]

/-- Where directories lead does not depend on the files in them. -/
theorem walk_set (content : Text) {target : Place} (h : files.walk place components = .ok dir) :
    (files.set target content).walk place components = .ok dir := by
  induction components generalizing place with
  | nil => exact h
  | cons c rest ih =>
    obtain ⟨hname, hnext, hrest⟩ := walk_cons_eq_ok.1 h
    exact walk_cons_eq_ok.2 ⟨hname, hnext, ih hrest⟩

@[simp] theorem get?_set (files : Files) (place : Place) (content : Text) :
    (files.set place content).get? place = some content := by
  simp [get?, set]

end Files

/-! ## The last component -/

namespace Path

variable {path : Path} {before : List Text} {name : Text}

/-- A path has a component, be it an empty one. -/
theorem ofText_components_ne_nil (t : Text) : (ofText t).components ≠ [] := by
  unfold ofText
  split <;> exact List.splitOn_ne_nil _ _

/-- The components in front of the last one, and the last one. -/
theorem exists_components_eq (t : Text) :
    ∃ before, (ofText t).components = before ++ [(ofText t).components.getLastD []] := by
  rcases List.eq_nil_or_concat (ofText t).components with h | ⟨before, name, h⟩
  · exact absurd h (ofText_components_ne_nil t)
  · exact ⟨before, by simp [h]⟩

/-- A slash at the end leaves an empty component behind it. -/
theorem endsInSlash_iff (h : path.components = before ++ [name]) :
    path.endsInSlash = true ↔ name = [] := by
  simp [endsInSlash, h]

/-- Any other path has a name at its end. -/
theorem split?_eq_some (h : path.components = before ++ [name]) (hname : name ≠ []) :
    path.split? = some (before, name) := by
  simp [split?, h, hname]

/-- A path leads to its last component from where the others lead to. -/
theorem place_eq (h : path.components = before ++ [name]) :
    path.place = Place.enter (before.foldl Place.enter path.start) name := by
  rw [place, h, List.foldl_append]
  rfl

/-- Without the last component, and without those in front of it that lead nowhere. -/
theorem parent_components (h : path.components = before ++ [name])
    (hname : Place.isIdle name = false) : path.parent.components = dropIdleEnd before := by
  simp [parent, h, dropIdleEnd, hname]

/-- Only components that lead nowhere are dropped. -/
theorem exists_dropIdleEnd_append (components : List Text) :
    ∃ idle, components = dropIdleEnd components ++ idle ∧ ∀ c ∈ idle, Place.isIdle c = true := by
  refine ⟨(components.reverse.takeWhile Place.isIdle).reverse, ?_, fun c hc => ?_⟩
  · rw [dropIdleEnd, ← List.reverse_append, List.takeWhile_append_dropWhile, List.reverse_reverse]
  · exact List.all_eq_true.1 List.all_takeWhile c (List.mem_reverse.1 hc)

end Path

namespace Files

variable {files made saved : Files} {place : Place} {path content name : Text} {before : List Text}

/-! ## Writing -/

/-- A path is one of a file if its last component is a name and no directory. -/
theorem locate_eq_ok {path : Path} (h : path.components = before ++ [name]) :
    files.locate path = .ok place ↔
      name ≠ [] ∧ ∃ dir, files.walk path.start before = .ok dir ∧
        files.isDirectory (Place.enter dir name) = false ∧ checkName name = .ok () ∧
        place = Place.enter dir name := by
  rw [locate]
  by_cases hname : name = []
  · have hslash := (Path.endsInSlash_iff h).2 hname
    cases path.split? <;> simp [hname, hslash, bind_eq_ok, throw_ne_ok]
  · have hslash : path.endsInSlash = false :=
      Bool.eq_false_iff.2 (mt (Path.endsInSlash_iff h).1 hname)
    simp only [Path.split?_eq_some h hname, hslash, Bool.false_or, bind_eq_ok, ite_throw_bind_eq_ok,
      pure_eq_ok, exists_and_right, exists_eq_ok_unit, ne_eq, hname, not_false_eq_true, true_and,
      Bool.not_eq_true]

/-- What has to hold for a file to be written, and what the files are then. -/
theorem write_eq_ok :
    files.write path content = .ok saved ↔
      checkPath (Path.ofText path).parent.toText = .ok () ∧
        ∃ made, files.makeDirectories (Path.ofText path).parent.start
            (Path.ofText path).parent.components = .ok made ∧
          checkPath path = .ok () ∧ path ≠ [] ∧
          ∃ place, made.locate (.ofText path) = .ok place ∧ saved = made.set place content := by
  simp only [write, bind_eq_ok, ite_throw_bind_eq_ok, pure_eq_ok, exists_and_right,
    exists_eq_ok_unit, ne_eq]

/-- The directories that lead to the last name of a path can be made, and these are the files with
them. -/
def MakesParent (files : Files) (path : Text) (made : Files) : Prop :=
  checkPath (Path.ofText path).parent.toText = .ok () ∧
    files.makeDirectories (Path.ofText path).parent.start (Path.ofText path).parent.components =
      .ok made

/-- The path is one of a file: it is not too long, it ends in a name that is not too long, and there
is no directory of that name. -/
structure NamesFile (files : Files) (path : Text) : Prop where
  checkPath : checkPath path = .ok ()
  checkName : checkName ((Path.ofText path).components.getLastD []) = .ok ()
  isIdle : Place.isIdle ((Path.ofText path).components.getLastD []) = false
  isDirectory : files.isDirectory (Path.ofText path).place = false

/-- The directories that were made lead up to the last name of the path. -/
theorem walk_of_makesParent (h : files.MakesParent path made)
    (hcomponents : (Path.ofText path).components = before ++ [name])
    (hname : Place.isIdle name = false) :
    made.walk (Path.ofText path).start before =
      .ok (before.foldl Place.enter (Path.ofText path).start) := by
  obtain ⟨idle, hbefore, hidle⟩ := Path.exists_dropIdleEnd_append before
  have hmade := h.2
  rw [Path.parent_components hcomponents hname] at hmade
  have hwalk := walk_of_makeDirectories hmade
  obtain ⟨-, hdir⟩ := walk_eq_ok hwalk (isDirectory_start made _)
  have hrest := walk_of_idle hidle hdir
  have hall := (walk_append hwalk).trans hrest
  rw [← hbefore] at hall
  exact hall.trans (congrArg Except.ok (walk_eq_ok hall (isDirectory_start made _)).1)

/-- A path that a file can be written to: the directories that lead to the file can be made, and
then the path is one of a file. -/
theorem exists_write_iff :
    (∃ saved, files.write path content = .ok saved) ↔
      ∃ made, files.MakesParent path made ∧ made.NamesFile path := by
  obtain ⟨before, hcomponents⟩ := Path.exists_components_eq path
  have hplace := Path.place_eq hcomponents
  constructor
  · rintro ⟨saved, hsaved⟩
    obtain ⟨hparent, made, hmade, hpath, -, place, hlocate, -⟩ := write_eq_ok.1 hsaved
    obtain ⟨hname, dir, hwalk, hdir, hcheck, -⟩ := (locate_eq_ok hcomponents).1 hlocate
    obtain ⟨rfl, hstart⟩ := walk_eq_ok hwalk (isDirectory_start made _)
    refine ⟨made, ⟨hparent, hmade⟩, hpath, hcheck, ?_, hplace ▸ hdir⟩
    -- A last component that leads nowhere names the directory itself.
    refine Bool.eq_false_iff.2 fun hidle => ?_
    rw [Place.enter, if_pos hidle, hstart] at hdir
    exact absurd hdir (by decide)
  · rintro ⟨made, hmade, hpath, hcheck, hidle, hdir⟩
    have hwalk := walk_of_makesParent hmade hcomponents hidle
    have hname : (Path.ofText path).components.getLastD [] ≠ [] := by
      intro hnil
      rw [hnil] at hidle
      exact absurd hidle (by decide)
    have hnil : path ≠ [] := by
      rintro rfl
      exact hname rfl
    rw [hplace] at hdir
    exact ⟨_, write_eq_ok.2 ⟨hmade.1, made, hmade.2, hpath, hnil, _,
      (locate_eq_ok hcomponents).2 ⟨hname, _, hwalk, hdir, hcheck, rfl⟩, rfl⟩⟩

/-- A file that was written is found where it was written. -/
theorem read_write (h : files.write path content = .ok saved) :
    saved.read path = .text content := by
  obtain ⟨before, hcomponents⟩ := Path.exists_components_eq path
  obtain ⟨-, made, -, hpath, hnil, place, hlocate, rfl⟩ := write_eq_ok.1 h
  obtain ⟨-, dir, hwalk, -, -, rfl⟩ := (locate_eq_ok hcomponents).1 hlocate
  have hfront : (Path.ofText path).components.dropLast = before := by
    rw [hcomponents, List.dropLast_concat]
  rw [read, hpath, hfront]
  simp [walk_set content hwalk, hnil, bind, Except.bind]

end Files

end NotebookLayout
