import Workbook.Graph.Reach

/-!
The order in which a search leaves the nodes.

Two nodes are joined when each can be reached from the other.  A search leaves the first node that
it entered among those joined with each other after all that can be reached from them.  So where a
later node of `leavingOrder` reaches an earlier one, a node joined with the later one stands no
later than the earlier one (`led_leavingOrder`).  Components that are taken in this order are
therefore taken before those that can be reached from them.

The proof is an invariant of the trail (`Trail.Sound`).  It speaks of the nodes that are open, seen
but not left: these are the nodes on the way from where the search began to where it is, so each of
them reaches the node that is entered next.
-/

namespace Workbook
namespace Graph

/-- Each of the two nodes can be reached from the other. -/
def Joined (g : Graph) (a b : BlockId) : Prop := g.Reaches a b ∧ g.Reaches b a

theorem Joined.refl {g : Graph} (a : BlockId) : g.Joined a a := ⟨.refl a, .refl a⟩

theorem Joined.symm {g : Graph} {a b : BlockId} (h : g.Joined a b) : g.Joined b a := ⟨h.2, h.1⟩

theorem Joined.trans {g : Graph} {a b c : BlockId} (hab : g.Joined a b) (hbc : g.Joined b c) :
    g.Joined a c :=
  ⟨hab.1.trans hbc.1, hbc.2.trans hab.2⟩

theorem eq_of_joined_of_component {g : Graph} (hg : g.Sound) {a b : BlockId} (ha : a ∈ g.nodes)
    (alone : g.component a = [a]) (hab : g.Joined a b) : b = a :=
  List.mem_singleton.mp (alone ▸ (mem_component hg ha).mpr hab)

/-- Where a later node reaches an earlier one, a node joined with the later one stands no later than
the earlier one. -/
def Led (g : Graph) (order : List BlockId) : Prop :=
  ∀ before a after, order = before ++ a :: after →
    ∀ x ∈ after, g.Reaches x a → ∃ c, (c ∈ before ∨ c = a) ∧ g.Joined c x

namespace Trail

/-- The search has entered the node and not left it. -/
def Open (t : Trail) (a : BlockId) : Prop := a ∈ t.seen ∧ a ∉ t.left

/-- What the trail of a search satisfies at every stage. -/
structure Sound (g : Graph) (t : Trail) : Prop where
  left_seen : ∀ x ∈ t.left, x ∈ t.seen
  users_seen : ∀ x ∈ t.left, ∀ y ∈ g.users x, y ∈ t.seen
  /-- A node that was left and reaches an open one is joined with an open one. -/
  open_joined : ∀ x ∈ t.left, ∀ z, t.Open z → g.Reaches x z → ∃ c, t.Open c ∧ g.Joined c x
  /-- The nodes left so far are led, as soon as the open ones are put before them. -/
  led : ∀ before a after, t.left = before ++ a :: after →
    ∀ x ∈ after, g.Reaches x a → ∃ c, (c ∈ before ∨ c = a ∨ t.Open c) ∧ g.Joined c x

theorem sound_empty {g : Graph} : Sound g {} := by
  constructor
  · intro x hx
    exact absurd hx List.not_mem_nil
  · intro x hx
    exact absurd hx List.not_mem_nil
  · intro x hx
    exact absurd hx List.not_mem_nil
  · intro before a after e
    exact absurd e (by simp)

/-- A path out of the nodes that were left runs into an open node. -/
theorem Sound.exists_open {g : Graph} {t : Trail} (h : Sound g t) {x y : BlockId} (hx : x ∈ t.left)
    (hxy : g.Reaches x y) : y ∈ t.left ∨ ∃ z, t.Open z ∧ g.Reaches x z := by
  induction hxy with
  | refl => exact .inl hx
  | @step b c hab hl ih =>
    rcases ih with hb | hz
    · have hc : c ∈ t.seen := h.users_seen b hb c (mem_users.mpr (hasLink_iff.mp hl))
      by_cases hcl : c ∈ t.left
      · exact .inl hcl
      · exact .inr ⟨c, ⟨hc, hcl⟩, .step hab hl⟩
    · exact .inr hz

/-! ## Entering and leaving -/

theorem open_enter {t : Trail} {a : BlockId} (ha : a ∉ t.left) {z : BlockId} :
    ({ t with seen := a :: t.seen } : Trail).Open z ↔ z = a ∨ t.Open z := by
  simp only [Open, List.mem_cons]
  constructor
  · intro given
    rcases given with ⟨e | hz, hl⟩
    · exact .inl e
    · exact .inr ⟨hz, hl⟩
  · intro given
    rcases given with rfl | ⟨hz, hl⟩
    · exact ⟨.inl rfl, ha⟩
    · exact ⟨.inr hz, hl⟩

theorem open_leave {t : Trail} {a z : BlockId} :
    ({ t with left := a :: t.left } : Trail).Open z ↔ z ≠ a ∧ t.Open z := by
  simp only [Open, List.mem_cons, not_or]
  exact ⟨fun h => ⟨h.2.1, h.1, h.2.2⟩, fun h => ⟨h.2.1, h.1, h.2.2⟩⟩

theorem Sound.enter {g : Graph} {t : Trail} (h : Sound g t) {a : BlockId} (ha : a ∉ t.seen) :
    Sound g { t with seen := a :: t.seen } := by
  have hal : a ∉ t.left := fun hl => ha (h.left_seen a hl)
  constructor
  · intro x hx
    exact List.mem_cons_of_mem a (h.left_seen x hx)
  · intro x hx y hy
    exact List.mem_cons_of_mem a (h.users_seen x hx y hy)
  · intro x hx z hz hxz
    have hopen : ∃ z, t.Open z ∧ g.Reaches x z := by
      rcases (open_enter hal).mp hz with rfl | hz
      · exact (h.exists_open hx hxz).resolve_left hal
      · exact ⟨z, hz, hxz⟩
    obtain ⟨w, hw, hxw⟩ := hopen
    obtain ⟨c, hc, hcx⟩ := h.open_joined x hx w hw hxw
    exact ⟨c, (open_enter hal).mpr (.inr hc), hcx⟩
  · intro before b after e x hx hxb
    obtain ⟨c, hc, hcx⟩ := h.led before b after e x hx hxb
    refine ⟨c, ?_, hcx⟩
    exact hc.imp_right fun hc => hc.imp_right fun hc => (open_enter hal).mpr (.inr hc)

/-- A node may be left once its users were seen, provided that it is the innermost open one. -/
theorem Sound.leave {g : Graph} {t : Trail} (h : Sound g t) {a : BlockId} (ha : t.Open a)
    (hu : ∀ y ∈ g.users a, y ∈ t.seen) (hr : ∀ z, t.Open z → g.Reaches z a) :
    Sound g { t with left := a :: t.left } := by
  constructor
  · intro x hx
    rcases List.mem_cons.mp hx with rfl | hx
    · exact ha.1
    · exact h.left_seen x hx
  · intro x hx y hy
    rcases List.mem_cons.mp hx with rfl | hx
    · exact hu y hy
    · exact h.users_seen x hx y hy
  · intro x hx z hz hxz
    obtain ⟨hza, hzo⟩ := open_leave.mp hz
    rcases List.mem_cons.mp hx with rfl | hx
    · exact ⟨z, hz, hr z hzo, hxz⟩
    · obtain ⟨c, hc, hcx⟩ := h.open_joined x hx z hzo hxz
      by_cases e : c = a
      · subst e
        exact ⟨z, hz, (hr z hzo).trans hcx.1, hxz⟩
      · exact ⟨c, open_leave.mpr ⟨e, hc⟩, hcx⟩
  · intro before b after e x hx hxb
    cases before with
    | nil =>
      simp only [List.nil_append, List.cons.injEq] at e
      obtain ⟨rfl, rfl⟩ := e
      obtain ⟨c, hc, hcx⟩ := h.open_joined x hx a ha hxb
      refine ⟨c, .inr ?_, hcx⟩
      by_cases e : c = a
      · exact .inl e
      · exact .inr (open_leave.mpr ⟨e, hc⟩)
    | cons d before =>
      simp only [List.cons_append, List.cons.injEq] at e
      obtain ⟨rfl, e⟩ := e
      obtain ⟨c, hc, hcx⟩ := h.led before b after e x hx hxb
      refine ⟨c, ?_, hcx⟩
      rcases hc with hc | hc | hc
      · exact .inl (List.mem_cons_of_mem a hc)
      · exact .inr (.inl hc)
      · by_cases e : c = a
        · exact .inl (e ▸ List.mem_cons_self ..)
        · exact .inr (.inr (open_leave.mpr ⟨e, hc⟩))

/-! ## The search -/

/-- The calls for users of a node, each of which starts where the one before it ended, leave open
the node and what was open before it. -/
theorem Sound.foldl_users {g : Graph} (hg : g.Sound) {depth : Nat} {a : BlockId} {t : Trail}
    (call : ∀ {u : Trail} {b : BlockId}, b ∈ g.nodes → g.unseen u.seen ≤ depth → Sound g u →
      (∀ z, u.Open z → g.Reaches z b) →
      Sound g (g.visit depth u b) ∧ ∀ z, (g.visit depth u b).Open z ↔ u.Open z)
    (hr : ∀ z, t.Open z → g.Reaches z a) {users : List BlockId} {u : Trail}
    (hm : ∀ b ∈ users, b ∈ g.users a) (hd : g.unseen u.seen ≤ depth) (hu : Sound g u)
    (ho : ∀ z, u.Open z ↔ z = a ∨ t.Open z) :
    Sound g (users.foldl (fun t b => g.visit depth t b) u) ∧
      ∀ z, (users.foldl (fun t b => g.visit depth t b) u).Open z ↔ z = a ∨ t.Open z := by
  induction users generalizing u with
  | nil => exact ⟨hu, ho⟩
  | cons b users fold =>
    have hlink : (a, b) ∈ g.links := mem_users.mp (hm b (List.mem_cons_self ..))
    have hreach : ∀ z, u.Open z → g.Reaches z b := by
      intro z hz
      rcases (ho z).mp hz with rfl | hz
      · exact .of_link hlink
      · exact (hr z hz).trans (.of_link hlink)
    obtain ⟨sound, same⟩ := call (hg.ends_mem hlink).2 hd hu hreach
    have hd' : g.unseen (g.visit depth u b).seen ≤ depth :=
      Nat.le_trans (unseen_anti (seen_subset_visit depth u b)) hd
    exact fold (fun c hc => hm c (List.mem_cons_of_mem b hc)) hd' sound
      fun z => (same z).trans (ho z)

/-- A call leaves open what was open before it. -/
theorem Sound.visit {g : Graph} (hg : g.Sound) (depth : Nat) {t : Trail} {a : BlockId}
    (ha : a ∈ g.nodes) (hd : g.unseen t.seen ≤ depth) (h : Sound g t)
    (hr : ∀ z, t.Open z → g.Reaches z a) :
    Sound g (g.visit depth t a) ∧ ∀ z, (g.visit depth t a).Open z ↔ t.Open z := by
  induction depth generalizing t a with
  | zero => exact ⟨h, fun z => Iff.rfl⟩
  | succ depth ih =>
    have settled := (settled_visit hg (depth + 1) t a ha hd).2
    unfold Graph.visit at settled ⊢
    split
    case isTrue => exact ⟨h, fun z => Iff.rfl⟩
    case isFalse hs =>
      rw [if_neg hs] at settled
      have has : a ∉ t.seen := mt List.contains_iff_mem.mpr hs
      have hal : a ∉ t.left := fun hl => has (h.left_seen a hl)
      have hdepth : g.unseen (a :: t.seen) ≤ depth := by
        have := unseen_cons_lt ha has
        omega
      have fold := Sound.foldl_users hg ih hr (fun b hb => hb) hdepth (h.enter has)
        fun z => open_enter hal
      simp only at settled fold ⊢
      generalize (g.users a).foldl (fun t b => g.visit depth t b)
        { t with seen := a :: t.seen } = inner at settled fold ⊢
      have hopen : inner.Open a := (fold.2 a).mpr (.inl rfl)
      refine ⟨fold.1.leave hopen (settled.2 a hopen.1 has) fun z hz => ?_, fun z => ?_⟩
      · rcases (fold.2 z).mp hz with rfl | hz
        · exact .refl z
        · exact hr z hz
      · rw [open_leave, fold.2 z]
        constructor
        · intro given
          rcases given with ⟨hza, e | hz⟩
          · exact absurd e hza
          · exact hz
        · intro hz
          exact ⟨fun e => has (e ▸ hz.1), .inr hz⟩

end Trail

/-- A search from each of some nodes in turn leaves no node open. -/
theorem sound_foldl_visit {g : Graph} (hg : g.Sound) (starts : List BlockId)
    (hn : ∀ a ∈ starts, a ∈ g.nodes) {t : Trail} (h : t.Sound g) (ho : ∀ z, ¬ t.Open z) :
    let u := starts.foldl (fun t a => g.visit g.nodes.length t a) t
    u.Sound g ∧ (∀ z, ¬ u.Open z) ∧ (∀ a ∈ starts, a ∈ u.seen) ∧ ∀ a ∈ t.seen, a ∈ u.seen := by
  induction starts generalizing t with
  | nil => exact ⟨h, ho, by simp, fun a ha => ha⟩
  | cons a rest ih =>
    have ha := hn a (List.mem_cons_self ..)
    have hd : g.unseen t.seen ≤ g.nodes.length := List.countP_le_length
    have first := h.visit hg g.nodes.length ha hd fun z hz => absurd hz (ho z)
    have seen := (settled_visit hg g.nodes.length t a ha hd).1
    have others := ih (fun b hb => hn b (List.mem_cons_of_mem a hb)) first.1
      fun z hz => ho z ((first.2 z).mp hz)
    refine ⟨others.1, others.2.1, fun b hb => ?_, fun b hb => ?_⟩
    · rcases List.mem_cons.mp hb with rfl | hb
      · exact others.2.2.2 b seen
      · exact others.2.2.1 b hb
    · exact others.2.2.2 b (seen_subset_visit g.nodes.length t a b hb)

theorem mem_leavingOrder {g : Graph} (hg : g.Sound) {a : BlockId} (ha : a ∈ g.nodes) :
    a ∈ g.leavingOrder := by
  have h := sound_foldl_visit hg g.nodes (fun a ha => ha) Trail.sound_empty
    fun z hz => List.not_mem_nil hz.1
  exact Decidable.byContradiction fun hl => h.2.1 a ⟨h.2.2.1 a ha, hl⟩

theorem mem_nodes_of_mem_leavingOrder {g : Graph} (hg : g.Sound) {a : BlockId}
    (ha : a ∈ g.leavingOrder) : a ∈ g.nodes := by
  have h := sound_foldl_visit hg g.nodes (fun a ha => ha) Trail.sound_empty
    fun z hz => List.not_mem_nil hz.1
  have seen : ∀ x ∈ (g.nodes.foldl (fun t a => g.visit g.nodes.length t a) {}).seen,
      x ∈ g.nodes := by
    refine List.foldlRecOn (motive := fun u : Trail => ∀ x ∈ u.seen, x ∈ g.nodes) g.nodes _
      (fun x hx => absurd hx List.not_mem_nil) fun u hu b hb x hx => ?_
    rcases reaches_of_mem_visit g.nodes.length u b x hx with hx | hbx
    · exact hu x hx
    · exact hbx.mem_nodes hg hb
  exact seen a (h.1.left_seen a ha)

theorem led_leavingOrder {g : Graph} (hg : g.Sound) : g.Led g.leavingOrder := by
  have h := sound_foldl_visit hg g.nodes (fun a ha => ha) Trail.sound_empty
    fun z hz => List.not_mem_nil hz.1
  intro before a after e x hx hxa
  obtain ⟨c, hc, hcx⟩ := h.1.led before a after e x hx hxa
  refine ⟨c, hc.imp_right fun hc => hc.resolve_right (h.2.1 c), hcx⟩

end Graph
end Workbook
