import Mathlib.Algebra.Group.Nat.Defs
import Workbook.Proofs.Toml.Rows
import Workbook.Settings.File

/-!
Settings are kept in files, or refused.

The text of settings is a document of one number to a line, and is read as the numbers that were
written (`ofFileText?_of_fileText?`).  There is a text just if the format has room for each of them
(`fileText?_eq_none_iff`), and it is made before the file is touched, so settings without one leave
the file as it was; `kept_or_refused` puts the two together.
-/

namespace Workbook
namespace Settings

variable {s : Settings}

/-! ## Texts -/

theorem isBare_of_mem_keys : ∀ key ∈ keys, Toml.IsBare key := by
  have bare : (keys.all fun key => key.toList != [] && key.toList.all Toml.isKeyChar) = true := by
    decide
  intro key h
  have := List.all_eq_true.mp bare key h
  rw [Bool.and_eq_true, bne_iff_ne] at this
  exact ⟨this.1, List.all_eq_true.mp this.2⟩

theorem nodup_keys : keys.Nodup := by decide

theorem keys_rows (s : Settings) : s.rows.map (·.1) = keys := rfl

theorem ofValues?_rows (s : Settings) : ofValues? (s.rows.map fun row => some row.2) = some s := rfl

theorem fileText?_eq_none_iff : s.fileText? = none ↔ ∃ row ∈ s.rows, Toml.intLimit ≤ row.2 := by
  have large : (∃ row ∈ s.rows, Toml.intLimit ≤ row.2) ↔
      ¬ (s.rows.all fun row => decide (row.2 < Toml.intLimit)) = true := by
    simp [List.all_eq_true]
  rw [large, fileText?]
  split
  · next fits => exact iff_of_false nofun (not_not_intro fits)
  · next fits => exact iff_of_true rfl fits

theorem field?_of_mem {members : List (String × Toml)} (distinct : (members.map (·.1)).Nodup)
    {key : String} {n : Nat} (h : (key, .int n) ∈ members) :
    field? members key = some (some n) := by
  have found : members.lookup key = some (.int n) := lookup_eq_some_of_mem distinct h
  rw [field?, found]
  exact if_pos (Int.natCast_nonneg n)

/-- Settings are read back from their text. -/
theorem ofFileText?_of_fileText? {text : String} (h : s.fileText? = some text) :
    ofFileText? text = some s := by
  unfold fileText? at h
  split at h
  · next fits =>
    cases h
    have fit : ∀ row ∈ s.rows, Toml.IsBare row.1 ∧ row.2 < Toml.intLimit := fun row hr =>
      ⟨isBare_of_mem_keys row.1 (List.mem_map_of_mem hr),
        of_decide_eq_true (List.all_eq_true.mp fits row hr)⟩
    have distinct : ((s.rows.map fun row => (row.1, Toml.int row.2)).map (·.1)).Nodup := nodup_keys
    have fields : keys.mapM (field? (s.rows.map fun row => (row.1, .int row.2))) =
        some (s.rows.map fun row => some row.2) :=
      mapM_map_eq_some fun row hr => field?_of_mem distinct (List.mem_map_of_mem hr)
    rw [ofFileText?, Toml.parse?_numbers (s.keys_rows ▸ nodup_keys) fit, Option.bind_eq_bind,
      Option.bind_some, fields]
    exact s.ofValues?_rows
  · cases h

/-! ## Files -/

theorem run_save (s : Settings) (f : File) :
    s.save.run f =
      match s.fileText? with
      | none => (.error unwritable, f)
      | some text =>
        match f.write text with
        | .ok after => (.ok (), after)
        | .error e => (.error e, f) := by
  unfold save
  cases s.fileText? with
  | none => rfl
  | some text => cases f <;> rfl

/-- Settings that could not be saved leave the file as it was. -/
theorem snd_save_of_error {f : File} {e : Error} (h : (s.save.run f).1 = .error e) :
    (s.save.run f).2 = f := by
  cases text? : s.fileText? with
  | none => simp only [run_save, text?]
  | some text =>
    cases written : f.write text with
    | error e => simp only [run_save, text?, written]
    | ok after => simp [run_save, text?, written] at h

/-- Settings without numbers of more than 63 bits are kept by any file that can be written, whatever
it held before.  Others are refused, and the file is left as it was. -/
theorem kept_or_refused (s : Settings) (f : File) :
    ((∀ row ∈ s.rows, row.2 ≤ 2 ^ 63 - 1) → f ≠ .orphaned → f ≠ .directory →
      ∃ after, s.save.run f = (.ok (), after) ∧ loadFile after = .ok s) ∧
    ((∃ row ∈ s.rows, 2 ^ 63 - 1 < row.2) →
      ∃ detail, s.save.run f = (.error (.serialization detail), f)) := by
  have limit : Toml.intLimit = 2 ^ 63 := by decide
  constructor
  · intro small parent file
    obtain ⟨text, written⟩ : ∃ text, s.fileText? = some text := by
      rw [← Option.ne_none_iff_exists', Ne, fileText?_eq_none_iff]
      rintro ⟨row, hr, large⟩
      have := small row hr
      omega
    refine ⟨.present (Text.utf8 text), ?_, ?_⟩
    · simp only [run_save, written, File.write_eq_ok parent file]
    · simp only [loadFile, File.read_written, ofFileText?_of_fileText? written]
  · rintro ⟨row, hr, large⟩
    have unwritten : s.fileText? = none := fileText?_eq_none_iff.mpr ⟨row, hr, by omega⟩
    have refused : (s.save.run f).1 = .error unwritable := by
      simp only [run_save, unwritten]
    exact ⟨_, Prod.ext refused (snd_save_of_error refused)⟩

/-- Settings at the limit over a file of something else, and settings just past it. -/
theorem kept_or_refused_at_limit :
    (∃ after, (save { throttleDelay := 2 ^ 63 - 1 }).run (.present [91]) = (.ok (), after) ∧
      loadFile after = .ok { throttleDelay := 2 ^ 63 - 1 }) ∧
    ∃ detail, (save { maxBlocks := 2 ^ 63 }).run (.present [91]) =
      (.error (.serialization detail), .present [91]) :=
  ⟨(kept_or_refused { throttleDelay := 2 ^ 63 - 1 } (.present [91])).1 (by decide) nofun nofun,
    (kept_or_refused { maxBlocks := 2 ^ 63 } (.present [91])).2 (by decide)⟩

end Settings
end Workbook
