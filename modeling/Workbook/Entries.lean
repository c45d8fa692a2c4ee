/-! Entries under keys, and lists that are read entry by entry. -/

namespace Workbook

section Lookup

variable {α β : Type} [BEq α] [LawfulBEq α] {entries : List (α × β)}

theorem lookup_eq_none_of_notMem {key : α} (h : key ∉ entries.map (·.1)) :
    entries.lookup key = none := by
  rw [List.lookup_eq_none_iff]
  intro e he
  rw [bne_iff_ne]
  rintro rfl
  exact h (List.mem_map_of_mem he)

theorem lookup_eq_some_of_mem (distinct : (entries.map (·.1)).Nodup) {e : α × β}
    (he : e ∈ entries) : entries.lookup e.1 = some e.2 := by
  obtain ⟨before, after, split⟩ := List.append_of_mem he
  rw [split, List.map_append, List.nodup_append] at distinct
  refine List.lookup_eq_some_iff.mpr ⟨before, after, split, fun p hp => ?_⟩
  rw [bne_iff_ne, ne_comm]
  exact distinct.2.2 p.1 (List.mem_map_of_mem hp) e.1 (List.mem_cons_self ..)

end Lookup

theorem mapM_map_eq_some {α β γ : Type} {read : β → Option γ} {write : α → β} {kept : α → γ}
    {as : List α} (h : ∀ a ∈ as, read (write a) = some (kept a)) :
    (as.map write).mapM read = some (as.map kept) := by
  induction as with
  | nil => rfl
  | cons a rest ih =>
    obtain ⟨first, others⟩ := List.forall_mem_cons.mp h
    simp [first, ih others]

end Workbook
