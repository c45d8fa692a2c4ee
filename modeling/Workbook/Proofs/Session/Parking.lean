import Mathlib.Data.List.Nodup
import Workbook.Session.Basic

/-!
Which blocks have a parked request, and when it is due.

Parked requests stand in the order of ids, one for a block at most, as long as they are parked and
erased only (`Ascends`).
-/

namespace Workbook
namespace Parking

variable {p : Parking} {id x : BlockId}

theorem mem_ids {p : Parking} : x ∈ p.ids ↔ ∃ e ∈ p.entries, e.1 = x := List.mem_map

/-- To park a request is to put its id at its place. -/
theorem ids_insert (p : Parking) (id : BlockId) (due : Nat) :
    (p.insert id due).ids = Ascending.insert BlockId.le id p.ids := by
  obtain ⟨entries⟩ := p
  show (insertEntry id due entries).map (·.1) = Ascending.insert BlockId.le id (entries.map (·.1))
  induction entries with
  | nil => rfl
  | cons e rest ih =>
    rw [insertEntry, List.map_cons, Ascending.insert]
    split
    case isTrue he =>
      have self : id.le id = true := or_self_iff.mp (BlockId.isOrder_le.total id id)
      rw [he, if_pos self, if_pos self, List.map_cons]
    case isFalse he =>
      split
      case isTrue before =>
        have after : ¬ e.1.le id = true := fun h => he (BlockId.isOrder_le.antisymm h before)
        rw [if_neg after]
        rfl
      case isFalse => rw [List.map_cons, ih]

@[simp]
theorem mem_ids_insert {due : Nat} : x ∈ (p.insert id due).ids ↔ x = id ∨ x ∈ p.ids := by
  rw [ids_insert, Ascending.mem_insert BlockId.isOrder_le]

theorem mem_entries_insert {due : Nat} {e : BlockId × Nat} (h : e ∈ (p.insert id due).entries) :
    e = (id, due) ∨ e ∈ p.entries := by
  obtain ⟨entries⟩ := p
  change e ∈ insertEntry id due entries at h
  show _ ∨ e ∈ entries
  induction entries with
  | nil => exact .inl (List.mem_singleton.mp h)
  | cons first rest ih =>
    rw [insertEntry] at h
    split at h
    · exact (List.mem_cons.mp h).imp_right (List.mem_cons_of_mem first)
    · split at h
      · exact List.mem_cons.mp h
      · rcases List.mem_cons.mp h with rfl | h
        · exact .inr (List.mem_cons_self ..)
        · exact (ih h).imp_right (List.mem_cons_of_mem first)

@[simp]
theorem mem_ids_erase : x ∈ (p.erase id).ids ↔ x ∈ p.ids ∧ x ≠ id := by
  simp only [mem_ids, erase, List.mem_filter, bne_iff_ne]
  constructor
  · intro given
    obtain ⟨e, ⟨he, hne⟩, rfl⟩ := given
    exact ⟨⟨e, he, rfl⟩, hne⟩
  · intro given
    obtain ⟨⟨e, he, rfl⟩, hne⟩ := given
    exact ⟨e, ⟨he, hne⟩, rfl⟩

theorem mem_ids_foldl_erase {ids : List BlockId} :
    x ∈ (ids.foldl erase p).ids ↔ x ∈ p.ids ∧ x ∉ ids := by
  induction ids generalizing p with
  | nil => simp
  | cons id ids ih =>
    rw [List.foldl_cons, ih, mem_ids_erase, List.mem_cons, not_or, and_assoc]

theorem entries_foldl_erase (ids : List BlockId) (p : Parking) :
    (ids.foldl erase p).entries = p.entries.filter fun e => decide (e.1 ∉ ids) := by
  induction ids generalizing p with
  | nil => exact (List.filter_eq_self.mpr fun _ _ => by simp).symm
  | cons id ids ih =>
    rw [List.foldl_cons, ih, erase, List.filter_filter]
    refine List.filter_congr fun e _ => ?_
    rw [Bool.eq_iff_iff]
    simp [and_comm]

/-- Each block has one parked request at most, and they stand in order. -/
def Ascends (p : Parking) : Prop := p.ids.Pairwise (Ascending.Below BlockId.le)

theorem Ascends.insert (h : p.Ascends) (id : BlockId) (due : Nat) : (p.insert id due).Ascends := by
  rw [Ascends, ids_insert]
  exact Ascending.pairwise_insert BlockId.isOrder_le h

theorem Ascends.of_sublist {q : Parking} (h : p.Ascends) (sub : q.entries.Sublist p.entries) :
    q.Ascends :=
  List.Pairwise.sublist (sub.map _) h

theorem Ascends.nodup (h : p.Ascends) : p.ids.Nodup := h.imp fun below => below.2

theorem mem_dueAt {now : Nat} :
    x ∈ p.dueAt now ↔ ∃ due, (x, due) ∈ p.entries ∧ due ≤ now := by
  simp only [dueAt, List.mem_map, List.mem_filter, decide_eq_true_eq]
  constructor
  · intro given
    obtain ⟨⟨y, due⟩, ⟨he, hn⟩, rfl⟩ := given
    exact ⟨due, he, hn⟩
  · intro given
    obtain ⟨due, he, hn⟩ := given
    exact ⟨(x, due), ⟨he, hn⟩, rfl⟩

/-- Once the requests that are due have gone, those are left that are due later. -/
theorem entries_erase_dueAt (h : p.ids.Nodup) (now : Nat) :
    ((p.dueAt now).foldl erase p).entries = p.entries.filter fun e => decide (now < e.2) := by
  rw [entries_foldl_erase]
  refine List.filter_congr fun e he => ?_
  rw [decide_eq_decide, mem_dueAt, ← Nat.not_le]
  refine not_congr ⟨fun due => ?_, fun due => ⟨e.2, he, due⟩⟩
  obtain ⟨due, there, le⟩ := due
  have same : (e.1, due) = e := List.inj_on_of_nodup_map h there he rfl
  rwa [← same]

/-! ## The earliest -/

theorem entries_eq_nil_of_earliest? (h : p.earliest? = none) : p.entries = [] :=
  List.map_eq_nil_iff.mp (List.min?_eq_none_iff.mp h)

theorem exists_of_earliest? {due : Nat} (h : p.earliest? = some due) : ∃ e ∈ p.entries, e.2 = due :=
  List.mem_map.mp (List.min?_eq_some_iff.mp h).1

theorem earliest?_le {due : Nat} {e : BlockId × Nat} (h : p.earliest? = some due)
    (he : e ∈ p.entries) : due ≤ e.2 :=
  (List.min?_eq_some_iff.mp h).2 e.2 (List.mem_map_of_mem he)

end Parking
end Workbook
