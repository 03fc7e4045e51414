import Mathlib.Algebra.GroupWithZero.Nat
import NotebookLayout.Proofs.Files
import NotebookLayout.Proofs.Toml.Entry
import NotebookLayout.Settings

/-!
# Settings that were saved are loaded

Written settings are a document of two entries, which is read as these settings. So settings that
are saved to a path are loaded from there, and a tab size of zero is refused by the reader and not
by the writer.

Main statement: `Settings.load_write`.
-/

namespace NotebookLayout

namespace Settings

open Toml

theorem isBareKey_tabSizeKey : IsBareKey tabSizeKey :=
  ⟨by decide, List.all_eq_true.1 (by decide)⟩

theorem isBareKey_cellMarkerKey : IsBareKey cellMarkerKey :=
  ⟨by decide, List.all_eq_true.1 (by decide)⟩

/-- The two lines of written settings. -/
theorem write_eq (settings : Settings) :
    settings.write = assignment tabSizeKey (Text.decimal settings.tabSize) ++
      (assignment cellMarkerKey (writeString settings.cellMarker) ++ []) := by
  simp [write, assignment]

/-- The entries of written settings. -/
def entries (settings : Settings) : Table :=
  [(tabSizeKey, .integer settings.tabSize), (cellMarkerKey, .string settings.cellMarker)]

theorem cellMarkerKey_beq_tabSizeKey : (cellMarkerKey == tabSizeKey) = false := by decide

/-- The lines of written settings build up a table of two entries. -/
theorem ofStatements_entries (settings : Settings) :
    Table.ofStatements (settings.entries.map fun e => .entry { path := [], name := e.1 } e.2) =
      some settings.entries := by
  have hne : tabSizeKey ≠ cellMarkerKey := by decide
  simp [entries, Table.ofStatements, Table.follow, Table.modifyAt, Table.define, Table.get?,
    Table.set, List.lookup_cons, cellMarkerKey_beq_tabSizeKey, hne]

/-- Written settings are two lines, one for each entry. -/
theorem readLines?_write {settings : Settings} (hsize : settings.tabSize < 2 ^ 64) (n : Nat) :
    readLines? (n + 4) settings.write =
      some (settings.entries.map fun e => .entry { path := [], name := e.1 } e.2) := by
  have hsize : settings.tabSize < 2 ^ 128 := Nat.lt_of_lt_of_le hsize (by decide)
  rw [write_eq,
    isBareKey_tabSizeKey.readLines? (isSpace_head_decimal _) (readValue?_decimal hsize _ _ _),
    isBareKey_cellMarkerKey.readLines? (isSpace_head_writeString _)
      (readValue?_writeString _ _ _ _)]
  rfl

/-- So they are a document of two entries. -/
theorem readDocument?_write {settings : Settings} (hsize : settings.tabSize < 2 ^ 64) :
    readDocument? settings.write = some settings.entries := by
  have hmark : dropByteOrderMark settings.write = settings.write := by
    rw [write_eq]
    rfl
  obtain ⟨n, hn⟩ : ∃ n, steps settings.write = n + 4 := by
    have hlength : 1 ≤ settings.write.length := by
      simp only [write_eq, assignment, List.length_append, List.length_cons]
      omega
    exact ⟨2 * settings.write.length - 2, by rw [steps]; omega⟩
  simp only [readDocument?, hmark, hn, readLines?_write hsize, Option.bind_eq_bind,
    Option.bind_some, ofStatements_entries]

/-- A size that fits into 64 bits is read back. -/
theorem size?_tabSize {n : Nat} (hn : n < 2 ^ 64) : size? (.integer n) = some n := by
  have hpow : Int.pow 2 64 = Int.ofNat (2 ^ 64) := by decide
  rw [size?, hpow, if_pos ⟨Int.natCast_nonneg n, Int.ofNat_lt.2 hn⟩, Int.toNat_natCast]

/-- The entries are those of the settings. -/
theorem ofTable?_entries {settings : Settings} (hsize : settings.tabSize < 2 ^ 64) :
    ofTable? settings.entries = some settings := by
  have htab : settings.entries.get? tabSizeKey = some (.integer settings.tabSize) := by
    simp [entries, Table.get?]
  have hmarker : settings.entries.get? cellMarkerKey = some (.string settings.cellMarker) := by
    simp [entries, Table.get?, List.lookup_cons, cellMarkerKey_beq_tabSizeKey]
  simp [ofTable?, valueOr?, htab, hmarker, size?_tabSize hsize, text?]

/-- Written settings are read back. -/
theorem read?_write {settings : Settings} (hsize : settings.tabSize < 2 ^ 64) :
    read? settings.write = some settings :=
  Option.bind_eq_some_iff.2 ⟨_, readDocument?_write hsize, ofTable?_entries hsize⟩

/-! ## Loading -/

/-- Written settings are loaded, unless the tab size is zero. -/
theorem load_text_write (path : Text) (settings : Settings) (hsize : settings.tabSize < 2 ^ 64) :
    load path (.text settings.write) =
      if settings.tabSize = 0 then .error (.zeroTabSize path) else .ok (some settings) := by
  rw [load, read?_write hsize]

/-- No settings are loaded with a tab size of zero. -/
theorem one_le_tabSize_of_load {path : Text} {content : FileContent} {settings : Settings}
    (h : load path content = .ok (some settings)) : 1 ≤ settings.tabSize := by
  cases content with
  | text content =>
    rw [load] at h
    split at h
    · cases h
    · split at h
      · cases h
      · obtain rfl := Option.some.inj (Except.ok.inj h)
        omega
  | _ => cases h

/-- Settings are loaded from the path that they were saved to, or refused if the tab size is zero:
the directories that lead to the file can be made, and no directory has its name. All settings that
are loaded have a tab size other than zero. -/
theorem load_write :
    (∀ (files made : Files) (path : Text) (settings : Settings), settings.tabSize ≤ 2 ^ 63 - 1 →
      files.MakesParent path made → made.NamesFile path →
      ∃ saved, files.write path settings.write = .ok saved ∧
        (1 ≤ settings.tabSize → load path (saved.read path) = .ok (some settings)) ∧
        (settings.tabSize = 0 → load path (saved.read path) = .error (.zeroTabSize path))) ∧
      ∀ (path : Text) (content : FileContent) (settings : Settings),
        load path content = .ok (some settings) → 1 ≤ settings.tabSize := by
  refine ⟨fun files made path settings hsize hmade hnames => ?_,
    fun _ _ _ => one_le_tabSize_of_load⟩
  obtain ⟨saved, hsaved⟩ := Files.exists_write_iff.2 ⟨made, hmade, hnames⟩
  have hload := load_text_write path settings (by omega)
  rw [← Files.read_write hsaved] at hload
  refine ⟨saved, hsaved, fun hpos => ?_, fun hzero => ?_⟩
  · rw [hload, if_neg (by omega)]
  · rw [hload, if_pos hzero]

/-- A marker with both threefold delimiters, controls and a line feed, in a directory that is not
there yet, beside a file. -/
theorem load_write_delimiters :
    let files : Files := { entries := [(["b".toList], [])] }
    let made : Files := { files with directories := [["a".toList], []] }
    let path := "./a//b".toList
    let settings : Settings :=
      { tabSize := 2 ^ 63 - 1, cellMarker := "\n\"\"\"\"'''\\\t\r\x7f\n\"\"".toList }
    settings.tabSize ≤ 2 ^ 63 - 1 ∧ files.MakesParent path made ∧ made.NamesFile path ∧
      (∃ saved, files.write path settings.write = .ok saved ∧
        load path (saved.read path) = .ok (some settings)) ∧
      ∃ saved, files.write path { settings with tabSize := 0 }.write = .ok saved ∧
        load path (saved.read path) = .error (.zeroTabSize path) := by
  intro files made path settings
  have hmade : files.MakesParent path made := ⟨rfl, rfl⟩
  have hnames : made.NamesFile path := ⟨rfl, rfl, rfl, rfl⟩
  have hsize : settings.tabSize ≤ 2 ^ 63 - 1 := Nat.le_refl _
  obtain ⟨saved, hsaved, hload, -⟩ := load_write.1 files made path settings hsize hmade hnames
  obtain ⟨zero, hzero, -, hrefused⟩ :=
    load_write.1 files made path { settings with tabSize := 0 } (Nat.zero_le _) hmade hnames
  exact ⟨hsize, hmade, hnames, ⟨saved, hsaved, hload (by decide)⟩, zero, hzero, hrefused rfl⟩

/-- A slash at the end stands for a directory: its parent can be made, but no settings are saved
there, and none are loaded. -/
theorem load_write_slash :
    let files : Files := {}
    let path := "config.toml/".toList
    let settings : Settings := {}
    1 ≤ settings.tabSize ∧ settings.tabSize ≤ 2 ^ 63 - 1 ∧ files.MakesParent path files ∧
      files.write path settings.write = .error .isDirectory ∧
      load path (files.read path) = .ok none ∧
      ¬∃ saved, files.write path settings.write = .ok saved ∧
        load path (saved.read path) = .ok (some settings) := by
  intro files path settings
  have hwrite : files.write path settings.write = .error .isDirectory := rfl
  refine ⟨by decide, by decide, ⟨rfl, rfl⟩, hwrite, rfl, ?_⟩
  rintro ⟨saved, hsaved, -⟩
  cases hwrite.symm.trans hsaved

end Settings

end NotebookLayout
