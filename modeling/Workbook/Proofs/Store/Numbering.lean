import Mathlib.Data.Nat.Init
import Workbook.Proofs.Store.Names

/-!
A search for a free name, and where it ends.

The search for the number behind a name has no bound of its own: from two on it tries one number
after the other until it meets a name that no other block has (`Store.Tries`).  It does end, and
with the name that `uniqueName` answers.  Its counter never grows beyond the number of blocks and
one more, so that it fits wherever that number fits (`searches_iff`).  What is answered is the
wanted name if it is free, and otherwise the one with the least free number (`uniqueName_least`).
-/

namespace Workbook
namespace Store

/-- From a number on, the search ends with a name.  The counter has to stay below a limit. -/
inductive Tries (s : Store) (except? : Option BlockId) (wanted : String) (limit : Nat) :
    Nat → String → Prop
  | free {k : Nat} (h : s.Free except? (Name.suffixed wanted k)) :
    Tries s except? wanted limit k (Name.suffixed wanted k)
  | taken {k : Nat} {name : String} (h : ¬ s.Free except? (Name.suffixed wanted k))
    (room : k + 1 < limit) (rest : Tries s except? wanted limit (k + 1) name) :
    Tries s except? wanted limit k name

/-- The whole search ends with a name: the wanted one, or one with a number. -/
inductive Searches (s : Store) (except? : Option BlockId) (wanted : String) (limit : Nat) :
    String → Prop
  | free (h : s.Free except? wanted) : Searches s except? wanted limit wanted
  | taken {name : String} (h : ¬ s.Free except? wanted)
    (rest : Tries s except? wanted limit 2 name) : Searches s except? wanted limit name

variable {s : Store} {except? : Option BlockId} {wanted : String} {limit : Nat}

/-- A search that is under way ends with one name at most. -/
theorem Tries.unique {k : Nat} {name other : String} (h : s.Tries except? wanted limit k name)
    (h' : s.Tries except? wanted limit k other) : name = other := by
  induction h with
  | free free =>
    cases h' with
    | free => rfl
    | taken taken => exact absurd free taken
  | taken taken _ _ ih =>
    cases h' with
    | free free => exact absurd free taken
    | taken _ _ rest => exact ih rest

/-- Taken numbers are passed over up to the first free one. -/
theorem tries_of_least {j k : Nat} (free : s.Free except? (Name.suffixed wanted k))
    (before : ∀ i, j ≤ i → i < k → ¬ s.Free except? (Name.suffixed wanted i)) (le : j ≤ k)
    (room : k < limit) : s.Tries except? wanted limit j (Name.suffixed wanted k) := by
  -- backwards from the number at which the search ends
  induction le using Nat.decreasingInduction with
  | self => exact .free free
  | of_succ j hj ih =>
    refine .taken (before j (Nat.le_refl j) hj) (by omega) (ih fun i hi => ?_)
    exact before i (Nat.le_of_succ_le hi)

/-- The search ends with the name that is answered and with no other, if its counter has room for
the number of blocks and one more. -/
theorem searches_iff (room : s.size + 1 < limit) {name : String} :
    s.Searches except? wanted limit name ↔ name = s.uniqueName wanted except? := by
  by_cases free : s.Free except? wanted
  · rw [uniqueName_eq_self free]
    constructor
    · intro found
      cases found with
      | free => rfl
      | taken taken => exact absurd free taken
    · rintro rfl
      exact .free free
  · obtain ⟨k, from_two, bound, e, numbered, before⟩ := uniqueName_eq_suffixed free
    have ends := tries_of_least numbered before from_two (Nat.lt_of_le_of_lt bound room)
    rw [e]
    constructor
    · intro found
      cases found with
      | free wanted => exact absurd wanted free
      | taken _ rest => exact rest.unique ends
    · rintro rfl
      exact .taken free ends

/-- The search for a free name ends, with the wanted name exactly if no other block has it, and
otherwise with the least number from two on whose name no other block has.  That number is at most
the number of blocks and one more, so a counter with room for this does not overflow. -/
theorem uniqueName_least (s : Store) (wanted : String) (except? : Option BlockId) :
    let name := s.uniqueName wanted except?
    (∀ limit, s.size + 1 < limit → ∀ found, s.Searches except? wanted limit found ↔ found = name) ∧
      (name = wanted ↔ s.Free except? wanted) ∧
      (¬ s.Free except? wanted → ∃ k, 2 ≤ k ∧ k ≤ s.size + 1 ∧ name = Name.suffixed wanted k ∧
        s.Free except? (Name.suffixed wanted k) ∧
        ∀ j, 2 ≤ j → j < k → ¬ s.Free except? (Name.suffixed wanted j)) ∧
      s.Free except? name := by
  intro name
  have free : s.Free except? name := free_uniqueName s wanted except?
  refine ⟨fun limit room found => searches_iff room, ⟨fun e => e ▸ free, uniqueName_eq_self⟩,
    uniqueName_eq_suffixed, free⟩

/-- The sigma at the end of the word is the same one in front of a number, and the third block may
keep its own name. -/
theorem uniqueName_least_sigma :
    let s : Store := { blocks := [{ id := ⟨"a"⟩, name := " όδοσ", kind := .static, data := "" },
      { id := ⟨"b"⟩, name := "ΌΔΟΣ", kind := .static, data := "" },
      { id := ⟨"c"⟩, name := "Όδος-3", kind := .static, data := "" },
      { id := ⟨"d"⟩, name := "όδος-2", kind := .separator, data := "" }] }
    ¬ s.Free (some ⟨"c"⟩) "ΌΔΟΣ" ∧ s.Free (some ⟨"c"⟩) "ΌΔΟΣ-3" ∧
      s.Searches (some ⟨"c"⟩) "ΌΔΟΣ" 6 "ΌΔΟΣ-3" ∧ ¬ s.Searches none "ΌΔΟΣ" 6 "ΌΔΟΣ-3" := by
  intro s
  obtain ⟨ends, -, -, free⟩ := uniqueName_least s "ΌΔΟΣ" (some ⟨"c"⟩)
  obtain ⟨others, -, -, -⟩ := uniqueName_least s "ΌΔΟΣ" none
  have answered : s.uniqueName "ΌΔΟΣ" (some ⟨"c"⟩) = "ΌΔΟΣ-3" := by decide +kernel
  rw [answered] at free
  refine ⟨by decide +kernel, free, (ends 6 (by decide) _).mpr answered.symm, fun found => ?_⟩
  exact absurd ((others 6 (by decide) _).mp found) (by decide +kernel)

end Store
end Workbook
