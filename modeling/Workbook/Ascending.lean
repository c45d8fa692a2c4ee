/-!
Ascending lists without repetition, the form in which sets are shown.

The order is given as a test `le`.  If that is a linear order (`IsOrder`), an ascending list is
determined by its elements (`eq_of_pairwise`).
-/

namespace Workbook
namespace Ascending

variable {α : Type}

/-- Puts `x` at its place, unless an equal element is there already. -/
def insert (le : α → α → Bool) (x : α) : List α → List α
  | [] => [x]
  | y :: rest =>
    if le x y then
      if le y x then y :: rest else x :: y :: rest
    else y :: insert le x rest

/-- The elements of a list, ascending and each once. -/
def ofList (le : α → α → Bool) (xs : List α) : List α := xs.foldr (insert le) []

/-- `le` is a linear order. -/
structure IsOrder (le : α → α → Bool) : Prop where
  total : ∀ x y, le x y = true ∨ le y x = true
  trans : ∀ {x y z}, le x y = true → le y z = true → le x z = true
  antisymm : ∀ {x y}, le x y = true → le y x = true → x = y

/-- `x` stands before `y`. -/
def Below (le : α → α → Bool) (x y : α) : Prop := le x y = true ∧ x ≠ y

variable {le : α → α → Bool}

theorem mem_insert (order : IsOrder le) {x z : α} {xs : List α} :
    z ∈ insert le x xs ↔ z = x ∨ z ∈ xs := by
  induction xs with
  | nil => simp [insert]
  | cons y rest ih =>
    unfold insert
    split
    case isTrue hxy =>
      split
      case isTrue hyx => simp [order.antisymm hxy hyx]
      case isFalse => simp
    case isFalse =>
      simp only [List.mem_cons, ih]
      exact or_left_comm

theorem mem_ofList (order : IsOrder le) {z : α} {xs : List α} : z ∈ ofList le xs ↔ z ∈ xs := by
  induction xs with
  | nil => simp [ofList]
  | cons x rest ih =>
    rw [List.mem_cons, ← ih]
    exact mem_insert order

theorem pairwise_insert (order : IsOrder le) {x : α} {xs : List α} (h : xs.Pairwise (Below le)) :
    (insert le x xs).Pairwise (Below le) := by
  induction xs with
  | nil => simp [insert]
  | cons y rest ih =>
    obtain ⟨hy, hrest⟩ := List.pairwise_cons.mp h
    unfold insert
    split
    case isTrue hxy =>
      split
      case isTrue => exact h
      case isFalse hyx =>
        refine List.pairwise_cons.mpr ⟨fun z hz => ?_, h⟩
        have below : Below le x y := ⟨hxy, fun e => hyx (e ▸ hxy)⟩
        rcases List.mem_cons.mp hz with rfl | hz
        · exact below
        · have yz := hy z hz
          exact ⟨order.trans hxy yz.1, fun e => below.2 (order.antisymm hxy (e ▸ yz.1))⟩
    case isFalse hxy =>
      refine List.pairwise_cons.mpr ⟨fun z hz => ?_, ih hrest⟩
      have hyx := (order.total x y).resolve_left hxy
      rcases (mem_insert order).mp hz with rfl | hz
      · exact ⟨hyx, fun e => hxy (e ▸ hyx)⟩
      · exact hy z hz

theorem pairwise_ofList (order : IsOrder le) (xs : List α) :
    (ofList le xs).Pairwise (Below le) := by
  induction xs with
  | nil => exact .nil
  | cons x rest ih => exact pairwise_insert order ih

/-- An ascending list is determined by its elements. -/
theorem eq_of_pairwise (order : IsOrder le) {xs ys : List α} (hx : xs.Pairwise (Below le))
    (hy : ys.Pairwise (Below le)) (h : ∀ z, z ∈ xs ↔ z ∈ ys) : xs = ys := by
  induction xs generalizing ys with
  | nil => exact (List.eq_nil_iff_forall_not_mem.mpr fun z hz => by simpa using (h z).mpr hz).symm
  | cons x xs ih =>
    cases ys with
    | nil => exact absurd ((h x).mp (List.mem_cons_self ..)) List.not_mem_nil
    | cons y ys =>
      obtain ⟨hx, hxs⟩ := List.pairwise_cons.mp hx
      obtain ⟨hy, hys⟩ := List.pairwise_cons.mp hy
      have e : x = y := by
        rcases List.mem_cons.mp ((h x).mp (List.mem_cons_self ..)) with e | hxy
        · exact e
        · rcases List.mem_cons.mp ((h y).mpr (List.mem_cons_self ..)) with e | hyx
          · exact e.symm
          · exact order.antisymm (hx y hyx).1 (hy x hxy).1
      subst e
      congr 1
      refine ih hxs hys fun z => ?_
      constructor
      · intro hz
        exact (List.mem_cons.mp ((h z).mp (List.mem_cons_of_mem x hz))).resolve_left
          fun e => (hx z hz).2 e.symm
      · intro hz
        exact (List.mem_cons.mp ((h z).mpr (List.mem_cons_of_mem x hz))).resolve_left
          fun e => (hy z hz).2 e.symm

theorem ofList_congr (order : IsOrder le) {xs ys : List α} (h : ∀ z, z ∈ xs ↔ z ∈ ys) :
    ofList le xs = ofList le ys :=
  eq_of_pairwise order (pairwise_ofList order xs) (pairwise_ofList order ys) fun z => by
    rw [mem_ofList order, mem_ofList order, h]

end Ascending
end Workbook
