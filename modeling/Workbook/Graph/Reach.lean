import Workbook.Graph.Order
import Workbook.Graph.Sound

/-!
The search decides reachability: `mem_reach`, and with it `mem_component`.

A call sees everything that can be reached from its node through what was not seen before.  The
depth suffices because each call within a call has one node less to see (`unseen`).
-/

namespace Workbook
namespace Graph

theorem mem_users {g : Graph} {a b : BlockId} : b ∈ g.users a ↔ (a, b) ∈ g.links := by
  simp only [users, List.mem_filterMap]
  constructor
  · intro given
    obtain ⟨⟨c, d⟩, hl, h⟩ := given
    split at h
    · rename_i e
      cases h
      exact e ▸ hl
    · cases h
  · intro hl
    exact ⟨(a, b), hl, by simp⟩

theorem mem_dependents {g : Graph} {a b : BlockId} : b ∈ g.dependents a ↔ g.hasLink a b = true := by
  rw [dependents, BlockId.mem_sorted, mem_users, hasLink_iff]

theorem mem_sources {g : Graph} {a b : BlockId} : b ∈ g.sources a ↔ (b, a) ∈ g.links := by
  simp only [sources, List.mem_filterMap]
  constructor
  · intro given
    obtain ⟨⟨c, d⟩, hl, h⟩ := given
    split at h
    · rename_i e
      cases h
      exact e ▸ hl
    · cases h
  · intro hl
    exact ⟨(b, a), hl, by simp⟩

theorem isIsolated_iff {g : Graph} {a : BlockId} :
    g.isIsolated a = true ↔ ∀ b, ¬ g.hasLink a b = true ∧ ¬ g.hasLink b a = true := by
  rw [isIsolated, indegree, outdegree, Bool.and_eq_true, beq_iff_eq, beq_iff_eq,
    List.length_eq_zero_iff, List.length_eq_zero_iff, List.eq_nil_iff_forall_not_mem,
    List.eq_nil_iff_forall_not_mem]
  simp only [mem_sources, mem_users, hasLink_iff]
  exact ⟨fun h b => ⟨h.2 b, h.1 b⟩, fun h => ⟨fun b => (h b).2, fun b => (h b).1⟩⟩

theorem dependents_of_isIsolated {g : Graph} {a : BlockId} (h : g.isIsolated a = true) :
    g.dependents a = [] := by
  rw [List.eq_nil_iff_forall_not_mem]
  intro b hb
  exact (isIsolated_iff.mp h b).1 (mem_dependents.mp hb)

theorem Reaches.trans {g : Graph} {a b c : BlockId} (hab : g.Reaches a b) (hbc : g.Reaches b c) :
    g.Reaches a c := by
  induction hbc with
  | refl => exact hab
  | step _ hl ih => exact .step ih hl

theorem Reaches.of_link {g : Graph} {a b : BlockId} (h : (a, b) ∈ g.links) : g.Reaches a b :=
  .step (.refl a) (hasLink_iff.mpr h)

/-- A set that no link leaves keeps what can be reached from its members. -/
theorem Reaches.closed {g : Graph} {p : BlockId → Prop} (h : ∀ a b, (a, b) ∈ g.links → p a → p b)
    {a b : BlockId} (hab : g.Reaches a b) (ha : p a) : p b := by
  induction hab with
  | refl => exact ha
  | step _ hl ih => exact h _ _ (hasLink_iff.mp hl) ih

theorem Reaches.mem_nodes {g : Graph} (h : g.Sound) {a b : BlockId} (hab : g.Reaches a b)
    (ha : a ∈ g.nodes) : b ∈ g.nodes :=
  hab.closed (fun _ _ hl _ => (h.ends_mem hl).2) ha

/-! ## What a search sees -/

/-- How many nodes a search has not seen. -/
def unseen (g : Graph) (seen : List BlockId) : Nat := g.nodes.countP fun a => !seen.contains a

theorem unseen_anti {g : Graph} {seen more : List BlockId} (h : ∀ a ∈ seen, a ∈ more) :
    g.unseen more ≤ g.unseen seen := by
  apply List.countP_mono_left
  intro a _ ha
  simp only [Bool.not_eq_true', List.contains_eq_mem, decide_eq_false_iff_not] at ha ⊢
  exact mt (h a) ha

theorem unseen_cons_lt {g : Graph} {seen : List BlockId} {a : BlockId} (ha : a ∈ g.nodes)
    (hs : a ∉ seen) : g.unseen (a :: seen) < g.unseen seen := by
  unfold unseen
  generalize g.nodes = nodes at ha
  induction nodes with
  | nil => exact absurd ha List.not_mem_nil
  | cons b rest ih =>
    by_cases e : b = a
    · subst e
      have le : rest.countP (fun x => !(b :: seen).contains x) ≤
          rest.countP fun x => !seen.contains x :=
        List.countP_mono_left fun x _ hx => by simp at hx ⊢; exact hx.2
      simp [hs]
      simp at le
      omega
    · have := ih ((List.mem_cons.mp ha).resolve_left (Ne.symm e))
      simp only [List.countP_cons]
      have : (!(a :: seen).contains b) = !seen.contains b := by simp [e]
      rw [this]
      omega

theorem seen_subset_visit {g : Graph} (depth : Nat) (t : Trail) (a : BlockId) :
    ∀ x ∈ t.seen, x ∈ (g.visit depth t a).seen := by
  induction depth generalizing t a with
  | zero => exact fun x hx => hx
  | succ depth ih =>
    intro x hx
    unfold visit
    split
    case isTrue => exact hx
    case isFalse =>
      exact List.foldlRecOn (motive := fun u : Trail => x ∈ u.seen) (g.users a) _
        (List.mem_cons_of_mem a hx) fun u hu b _ => ih u b x hu

theorem reaches_of_mem_visit {g : Graph} (depth : Nat) (t : Trail) (a : BlockId) :
    ∀ x ∈ (g.visit depth t a).seen, x ∈ t.seen ∨ g.Reaches a x := by
  induction depth generalizing t a with
  | zero => exact fun x hx => .inl hx
  | succ depth ih =>
    intro x
    unfold visit
    split
    case isTrue => exact .inl
    case isFalse =>
      refine List.foldlRecOn (motive := fun u : Trail => x ∈ u.seen → x ∈ t.seen ∨ g.Reaches a x)
        (g.users a) _ (fun hx => ?_) fun u hu b hb hx => ?_
      · exact (List.mem_cons.mp hx).elim (fun e => .inr (e ▸ Reaches.refl (g := g) a)) .inl
      · rcases ih u b x hx with hx | hx
        · exact hu hx
        · exact .inr ((Reaches.of_link (mem_users.mp hb)).trans hx)

/-- Whatever was seen between two stages of a search has had all its users seen. -/
def Settled (g : Graph) (before after : Trail) : Prop :=
  (∀ x ∈ before.seen, x ∈ after.seen) ∧
    ∀ x ∈ after.seen, x ∉ before.seen → ∀ y ∈ g.users x, y ∈ after.seen

theorem Settled.trans {g : Graph} {t u v : Trail} (htu : g.Settled t u) (huv : g.Settled u v) :
    g.Settled t v := by
  refine ⟨fun x hx => huv.1 x (htu.1 x hx), fun x hx hxt y hy => ?_⟩
  by_cases hxu : x ∈ u.seen
  · exact huv.1 y (htu.2 x hxu hxt y hy)
  · exact huv.2 x hx hxu y hy

theorem settled_visit {g : Graph} (h : g.Sound) (depth : Nat) (t : Trail) (a : BlockId)
    (ha : a ∈ g.nodes) (hd : g.unseen t.seen ≤ depth) :
    a ∈ (g.visit depth t a).seen ∧ g.Settled t (g.visit depth t a) := by
  induction depth generalizing t a with
  | zero =>
    have hs : a ∈ t.seen := by
      apply Decidable.byContradiction
      intro hs
      have := unseen_cons_lt ha hs
      omega
    exact ⟨hs, fun x hx => hx, fun x hx hxt => absurd hx hxt⟩
  | succ depth ih =>
    unfold visit
    split
    case isTrue hs =>
      exact ⟨List.contains_iff_mem.mp hs, fun x hx => hx, fun x hx hxt => absurd hx hxt⟩
    case isFalse hs =>
      have hs : a ∉ t.seen := mt List.contains_iff_mem.mpr hs
      have inside : ∀ (users : List BlockId) (u : Trail), (∀ b ∈ users, b ∈ g.nodes) →
          g.unseen u.seen ≤ depth →
          let v := users.foldl (fun t b => g.visit depth t b) u
          (∀ b ∈ users, b ∈ v.seen) ∧ g.Settled u v := by
        intro users
        induction users with
        | nil => exact fun u _ _ => ⟨by simp, fun x hx => hx, fun x hx hxt => absurd hx hxt⟩
        | cons b users fold =>
          intro u hn hu
          have first := ih u b (hn b (List.mem_cons_self ..)) hu
          have others := fold (g.visit depth u b) (fun c hc => hn c (List.mem_cons_of_mem b hc))
            (Nat.le_trans (unseen_anti first.2.1) hu)
          refine ⟨fun c hc => ?_, first.2.trans others.2⟩
          rcases List.mem_cons.mp hc with rfl | hc
          · exact others.2.1 c first.1
          · exact others.1 c hc
      have hu : g.unseen (a :: t.seen) ≤ depth := by
        have := unseen_cons_lt ha hs
        omega
      have fold := inside (g.users a) { t with seen := a :: t.seen }
        (fun b hb => (h.ends_mem (mem_users.mp hb)).2) hu
      refine ⟨fold.2.1 a (List.mem_cons_self ..), fun x hx => ?_, fun x hx hxt y hy => ?_⟩
      · exact fold.2.1 x (List.mem_cons_of_mem a hx)
      · by_cases e : x = a
        · subst e
          exact fold.1 y hy
        · exact fold.2.2 x hx (fun hmem => (List.mem_cons.mp hmem).elim e hxt) y hy

/-- The nodes seen from a node are those that can be reached from it. -/
theorem mem_reach {g : Graph} (h : g.Sound) {a b : BlockId} (ha : a ∈ g.nodes) :
    b ∈ g.reach a ↔ g.Reaches a b := by
  constructor
  · intro hb
    exact (reaches_of_mem_visit _ _ _ b hb).resolve_left List.not_mem_nil
  · intro hab
    have ⟨self, settled⟩ := settled_visit h g.nodes.length {} a ha List.countP_le_length
    exact hab.closed (fun x y hl hx => settled.2 x hx List.not_mem_nil y (mem_users.mpr hl)) self

/-! ## Components -/

theorem lookup_closure {g : Graph} {a : BlockId} (ha : a ∈ g.nodes) :
    g.closure.lookup a = some (g.reach a) := by
  unfold closure
  generalize g.nodes = nodes at ha
  induction nodes with
  | nil => exact absurd ha List.not_mem_nil
  | cons b rest ih =>
    simp only [List.map_cons, List.lookup_cons]
    by_cases e : a = b
    · simp [e]
    · have : (a == b) = false := beq_false_of_ne e
      simp [this, ih ((List.mem_cons.mp ha).resolve_left e)]

theorem mem_componentIn {g : Graph} (h : g.Sound) {a b : BlockId} (ha : a ∈ g.nodes) :
    b ∈ componentIn g.closure a ↔ g.Reaches a b ∧ g.Reaches b a := by
  rw [componentIn, lookup_closure ha]
  simp only [closure, List.mem_filterMap, List.mem_map]
  constructor
  · intro given
    obtain ⟨row, ⟨c, hc, rfl⟩, hrow⟩ := given
    split at hrow
    · rename_i both
      cases hrow
      simp only [Bool.and_eq_true, List.contains_iff_mem, mem_reach h ha, mem_reach h hc] at both
      exact both
    · cases hrow
  · intro given
    obtain ⟨hab, hba⟩ := given
    have hb := hab.mem_nodes h ha
    refine ⟨(b, g.reach b), ⟨b, hb, rfl⟩, ?_⟩
    simp [mem_reach h ha, mem_reach h hb, hab, hba]

/-- Two nodes are in one component when each can be reached from the other. -/
theorem mem_component {g : Graph} (h : g.Sound) {a b : BlockId} (ha : a ∈ g.nodes) :
    b ∈ g.component a ↔ g.Reaches a b ∧ g.Reaches b a := by
  rw [component, BlockId.mem_sorted, mem_componentIn h ha]

end Graph
end Workbook
