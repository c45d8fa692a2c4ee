import Workbook.Block.File
import Workbook.Proofs.Json.Blocks
import Workbook.Proofs.Store.Edits
import Workbook.Proofs.Store.Outline

/-!
Blocks are read from a file as they were saved.

Each block is read as it was written, but for what belongs to a running session, so a file to which
blocks were saved holds them as they are at rest (`Block.loadFile_saveFile`).  In a store names are
apart, so when the blocks are put back into one, none is renamed (`saved_reloads`).
-/

namespace Workbook

namespace Block

theorem ofFileText?_fileText (blocks : List Block) :
    ofFileText? (fileText blocks) = some (blocks.map atRest) := by
  have exact : (Json.ofList toJson blocks).Exact := by
    refine .list fun j hj => ?_
    obtain ⟨b, -, rfl⟩ := List.mem_map.mp hj
    exact exact_toJson b
  rw [ofFileText?, fileText, Json.parse?_render exact, Option.bind_some]
  exact Json.listOf?_ofList fun b _ => ofJson?_toJson _ b

/-- A file that can be written to holds the blocks that were saved to it, at rest. -/
theorem loadFile_saveFile {f : File} (parent : f ≠ .orphaned) (file : f ≠ .directory)
    (blocks : List Block) :
    ∃ g, saveFile f blocks = .ok g ∧ loadFile g = .ok (blocks.map atRest) := by
  refine ⟨_, File.write_eq_ok parent file _, ?_⟩
  simp only [loadFile, File.read_written, ofFileText?_fileText]

end Block

namespace Store

theorem Sound.atRest {s : Store} (h : s.Sound) :
    ({ s with blocks := s.blocks.map Block.atRest } : Store).Sound := by
  have again : (s.blocks.map Block.atRest).map Block.atRest = s.blocks.map Block.atRest := by
    rw [List.map_map]
    rfl
  have alike : ({ s with blocks := s.blocks.map Block.atRest } : Store).Alike s :=
    alike_of_atRest again rfl
  exact alike.sound h

/-- A store takes all blocks of a sound store under the names that they have. -/
theorem Sound.replaces {s t : Store} (h : s.Sound)
    (limit : t.settings.maxBlocks = s.settings.maxBlocks) :
    t.replaceAll s.blocks = .ok { t with blocks := s.blocks } := by
  rw [replaceAll_eq_ok_iff h.names_nodup, limit]
  exact ⟨h.length_le, h.ids_nodup, rfl⟩

/-- The blocks of a store are read from a file as they were saved, at rest, and a store with the
same limit takes all of them under the names that they have. -/
theorem saved_reloads (settings : Settings) (edits : List Edit) :
    let s := edited settings edits
    (∀ f : File, f ≠ .orphaned → f ≠ .directory →
        ∃ g, Block.saveFile f s.blocks = .ok g ∧
          Block.loadFile g = .ok (s.blocks.map Block.atRest)) ∧
      ∀ t : Store, t.settings.maxBlocks = settings.maxBlocks →
        t.replaceAll (s.blocks.map Block.atRest) =
          .ok { t with blocks := s.blocks.map Block.atRest } := by
  intro s
  obtain ⟨sound, settings_eq⟩ := follows_edits (sound_empty settings) edits
  refine ⟨fun f parent file => Block.loadFile_saveFile parent file _, fun t limit => ?_⟩
  have same : t.settings.maxBlocks = s.settings.maxBlocks := by
    rw [limit]
    exact (congrArg Settings.maxBlocks settings_eq).symm
  exact sound.atRest.replaces same

/-- Characters that are escaped, others of up to four bytes, an image and empty texts are saved over
another file, and put back into a store that held a block of that name. -/
theorem saved_reloads_in_place :
    let a : Block :=
      { id := ⟨"a\\"⟩, name := "Ä \"1\"", kind := .importedImage,
        content := some (.binary "image/png" [0, 255, 16]), requested := some 3 }
    let b : Block :=
      { id := ⟨"𝄞"⟩, name := " ä \"1\"", kind := .generativeText, data := "#x\n\x01",
        transform := some "", input := some "/\u2028", access := .entry }
    let s := edited { maxBlocks := 2 } [.replaceAll [b, a], .moveTo ⟨"𝄞"⟩ 1,
      .setContent ⟨"𝄞"⟩ (some (.text "")), .setStatus ⟨"𝄞"⟩ (.failed "late")]
    let t : Store := { settings := { maxBlocks := 2 }, blocks := [a] }
    let loaded : List Block :=
      [{ a with name := "Ä \"1\"-2", requested := none },
        { b with content := some (.text ""), status := .idle }]
    (∃ g, Block.saveFile (.present [91]) s.blocks = .ok g ∧ Block.loadFile g = .ok loaded) ∧
      t.replaceAll loaded = .ok { t with blocks := loaded } := by
  intro a b s t loaded
  have rest : s.blocks.map Block.atRest = loaded := by decide +kernel
  obtain ⟨saved, replaced⟩ := saved_reloads { maxBlocks := 2 } [.replaceAll [b, a],
    .moveTo ⟨"𝄞"⟩ 1, .setContent ⟨"𝄞"⟩ (some (.text "")), .setStatus ⟨"𝄞"⟩ (.failed "late")]
  have there := saved (.present [91]) nofun nofun
  have taken := replaced t rfl
  rw [rest] at there taken
  exact ⟨there, taken⟩

end Store
end Workbook
