import Workbook.Proofs.Graph.Leaving

/-!
Components in the order in which they are computed, and the nodes picked from them.

`components` lists every component once, and nothing in a later one reaches anything in an earlier
one (`graded_components`).  `pick` puts the wanted nodes in that order unless a component holds two
of them (`pick_eq`).  In it no node reaches an earlier one (`arranged_alone`), so none stands there
twice.
-/

namespace Workbook
namespace Graph

/-- No node reaches an earlier one. -/
def Arranged (g : Graph) (order : List BlockId) : Prop := order.Pairwise fun a b => ¬ g.Reaches b a

/-- Lists of nodes that are each a whole component, of which no later one reaches an earlier one. -/
structure Graded (g : Graph) (cs : List (List BlockId)) : Prop where
  nodup : ∀ c ∈ cs, c.Nodup
  joined : ∀ c ∈ cs, ∀ x ∈ c, ∀ y, y ∈ c ↔ g.Joined x y
  ordered : cs.Pairwise fun c d => ∀ x ∈ c, ∀ y ∈ d, ¬ g.Reaches y x

theorem Graded.tail {g : Graph} {c : List BlockId} {cs : List (List BlockId)}
    (h : g.Graded (c :: cs)) : g.Graded cs where
  nodup d hd := h.nodup d (List.mem_cons_of_mem c hd)
  joined d hd := h.joined d (List.mem_cons_of_mem c hd)
  ordered := (List.pairwise_cons.mp h.ordered).2

/-! ## Gathering components -/

theorem nodup_componentIn {g : Graph} (hg : g.Sound) (a : BlockId) :
    (componentIn g.closure a).Nodup := by
  unfold componentIn
  split
  · exact List.nodup_nil
  · have hn := nodup_nodes hg
    rw [List.nodup_iff_pairwise_ne] at hn ⊢
    rw [List.pairwise_filterMap, closure, List.pairwise_map]
    apply hn.imp
    intro x y hxy u hu v hv
    split at hu <;> split at hv <;> simp_all

/-- The taken nodes are those that are joined with a node gone through before. -/
def TakenFrom (g : Graph) (before taken : List BlockId) : Prop :=
  ∀ x, x ∈ taken ↔ ∃ c ∈ before, g.Joined c x

/-- What is gathered from nodes: the components of those that were not taken before. -/
structure Gathered (g : Graph) (taken nodes : List BlockId) (cs : List (List BlockId)) : Prop where
  graded : g.Graded cs
  starts : ∀ c ∈ cs, ∃ a ∈ nodes, a ∉ taken ∧ a ∈ c
  covers : ∀ a ∈ nodes, a ∈ taken ∨ ∃ c ∈ cs, a ∈ c

section
variable {g : Graph} {before taken rest : List BlockId} {cs : List (List BlockId)} {a : BlockId}

theorem TakenFrom.pass (h : g.TakenFrom before taken) (ha : a ∈ taken) :
    g.TakenFrom (before ++ [a]) taken := by
  intro x
  rw [h x]
  constructor
  · intro given
    obtain ⟨c, hc, hcx⟩ := given
    exact ⟨c, List.mem_append_left _ hc, hcx⟩
  · intro given
    obtain ⟨c, hc, hcx⟩ := given
    rcases List.mem_append.mp hc with hc | hc
    · exact ⟨c, hc, hcx⟩
    · obtain ⟨d, hd, hda⟩ := (h a).mp ha
      exact ⟨d, hd, hda.trans (List.mem_singleton.mp hc ▸ hcx)⟩

theorem TakenFrom.take (h : g.TakenFrom before taken) (hg : g.Sound) (ha : a ∈ g.nodes) :
    g.TakenFrom (before ++ [a]) (componentIn g.closure a ++ taken) := by
  intro x
  rw [List.mem_append, mem_componentIn hg ha, h x]
  constructor
  · intro given
    rcases given with hax | ⟨c, hc, hcx⟩
    · exact ⟨a, List.mem_append_right _ (List.mem_singleton_self a), hax⟩
    · exact ⟨c, List.mem_append_left _ hc, hcx⟩
  · intro given
    obtain ⟨c, hc, hcx⟩ := given
    rcases List.mem_append.mp hc with hc | hc
    · exact .inr ⟨c, hc, hcx⟩
    · exact .inl (List.mem_singleton.mp hc ▸ hcx)

/-- A node before one that it is not joined with, and that it reaches, would break the order in
which nodes are left. -/
theorem TakenFrom.not_reaches {order : List BlockId} (h : g.TakenFrom (before ++ [a]) taken)
    (led : g.Led order) (e : order = before ++ a :: rest) {b : BlockId} (hb : b ∈ rest)
    (hnot : b ∉ taken) : ¬ g.Reaches b a := by
  intro hba
  obtain ⟨c, hc, hcb⟩ := led before a rest e b hb hba
  refine hnot ((h b).mpr ⟨c, ?_, hcb⟩)
  rcases hc with hc | rfl
  · exact List.mem_append_left _ hc
  · exact List.mem_append_right _ (List.mem_singleton_self c)

theorem Gathered.nil : g.Gathered taken [] [] where
  graded :=
    ⟨fun _ hc => absurd hc List.not_mem_nil, fun _ hc => absurd hc List.not_mem_nil, .nil⟩
  starts _ hc := absurd hc List.not_mem_nil
  covers _ ha := absurd ha List.not_mem_nil

theorem Gathered.pass (h : g.Gathered taken rest cs) (ha : a ∈ taken) :
    g.Gathered taken (a :: rest) cs where
  graded := h.graded
  starts c hc := by
    obtain ⟨b, hb, hbc⟩ := h.starts c hc
    exact ⟨b, List.mem_cons_of_mem a hb, hbc⟩
  covers b hb := by
    rcases List.mem_cons.mp hb with rfl | hb
    · exact .inl ha
    · exact h.covers b hb

theorem Gathered.take (h : g.Gathered (componentIn g.closure a ++ taken) rest cs) (hg : g.Sound)
    (ha : a ∈ g.nodes) (fresh : a ∉ taken)
    (apart : ∀ b ∈ rest, b ∉ componentIn g.closure a ++ taken → ¬ g.Reaches b a) :
    g.Gathered taken (a :: rest) (componentIn g.closure a :: cs) := by
  have hmem : ∀ x, x ∈ componentIn g.closure a ↔ g.Joined a x := fun x => mem_componentIn hg ha
  refine ⟨⟨?_, ?_, List.pairwise_cons.mpr ⟨?_, h.graded.ordered⟩⟩, ?_, ?_⟩
  · intro c hc
    rcases List.mem_cons.mp hc with rfl | hc
    · exact nodup_componentIn hg a
    · exact h.graded.nodup c hc
  · intro c hc x hx y
    rcases List.mem_cons.mp hc with rfl | hc
    · rw [hmem]
      exact ⟨fun hay => ((hmem x).mp hx).symm.trans hay, ((hmem x).mp hx).trans⟩
    · exact h.graded.joined c hc x hx y
  · -- the node from which `d` was gathered would reach `a`
    intro d hd x hx y hy hyx
    obtain ⟨b, hb, hnot, hbd⟩ := h.starts d hd
    have hby : g.Joined b y := (h.graded.joined d hd b hbd y).mp hy
    exact apart b hb hnot ((hby.1.trans hyx).trans ((hmem x).mp hx).2)
  · intro c hc
    rcases List.mem_cons.mp hc with rfl | hc
    · exact ⟨a, List.mem_cons_self .., fresh, (hmem a).mpr (.refl a)⟩
    · obtain ⟨b, hb, hnot, hbc⟩ := h.starts c hc
      exact ⟨b, List.mem_cons_of_mem a hb, fun h => hnot (List.mem_append_right _ h), hbc⟩
  · intro b hb
    rcases List.mem_cons.mp hb with rfl | hb
    · exact .inr ⟨_, List.mem_cons_self .., (hmem b).mpr (.refl b)⟩
    · rcases h.covers b hb with hb | ⟨c, hc, hbc⟩
      · rcases List.mem_append.mp hb with hb | hb
        · exact .inr ⟨_, List.mem_cons_self .., hb⟩
        · exact .inl hb
      · exact .inr ⟨c, List.mem_cons_of_mem _ hc, hbc⟩

theorem gathered_gather (hg : g.Sound) {order : List BlockId} (led : g.Led order)
    (e : order = before ++ rest) (hn : ∀ a ∈ rest, a ∈ g.nodes) (ht : g.TakenFrom before taken) :
    g.Gathered taken rest (gather g.closure taken rest) := by
  induction rest generalizing before taken with
  | nil => exact .nil
  | cons a rest ih =>
    have ha := hn a (List.mem_cons_self ..)
    have hn : ∀ b ∈ rest, b ∈ g.nodes := fun b hb => hn b (List.mem_cons_of_mem a hb)
    have e' : order = (before ++ [a]) ++ rest := by
      rw [e, List.append_assoc]
      rfl
    unfold gather
    by_cases hs : a ∈ taken
    · rw [if_pos (List.contains_iff_mem.mpr hs)]
      exact (ih e' hn (ht.pass hs)).pass hs
    · rw [if_neg (mt List.contains_iff_mem.mp hs)]
      have taken' := ht.take hg ha
      exact (ih e' hn taken').take hg ha hs fun b hb hnot => taken'.not_reaches led e hb hnot

end

theorem graded_components {g : Graph} (hg : g.Sound) :
    g.Graded g.components ∧ (∀ c ∈ g.components, ∃ a ∈ g.nodes, a ∈ c) ∧
      ∀ a ∈ g.nodes, ∃ c ∈ g.components, a ∈ c := by
  have untaken : g.TakenFrom [] [] := fun x => by simp
  obtain ⟨graded, starts, covers⟩ := gathered_gather hg (led_leavingOrder hg)
    (List.nil_append _).symm (fun a ha => mem_nodes_of_mem_leavingOrder hg ha) untaken
  refine ⟨graded, fun c hc => ?_, fun a ha => ?_⟩
  · obtain ⟨a, ha, -, hac⟩ := starts c hc
    exact ⟨a, mem_nodes_of_mem_leavingOrder hg ha, hac⟩
  · exact (covers a (mem_leavingOrder hg ha)).resolve_left List.not_mem_nil

/-- The members of components are the nodes. -/
theorem mem_components {g : Graph} (hg : g.Sound) {a : BlockId} :
    (∃ c ∈ g.components, a ∈ c) ↔ a ∈ g.nodes := by
  obtain ⟨graded, starts, covers⟩ := graded_components hg
  constructor
  · intro given
    obtain ⟨c, hc, hac⟩ := given
    obtain ⟨b, hb, hbc⟩ := starts c hc
    exact ((graded.joined c hc b hbc a).mp hac).1.mem_nodes hg hb
  · exact covers a

/-! ## Picking

A component that holds one wanted node gives it its place in the order; one that holds two of them
is in the way.
-/

/-- The wanted nodes that share their component with no other, in the order of the components. -/
def alone (wanted : List BlockId) (cs : List (List BlockId)) : List BlockId :=
  cs.flatMap fun c =>
    match c.filter wanted.contains with
    | [a] => [a]
    | _ => []

/-- The components that hold two wanted nodes. -/
def crowded (wanted : List BlockId) (cs : List (List BlockId)) : List (List BlockId) :=
  cs.filter fun c => decide (2 ≤ (c.filter wanted.contains).length)

theorem mem_filter_contains {wanted c : List BlockId} {a : BlockId} :
    a ∈ c.filter wanted.contains ↔ a ∈ c ∧ a ∈ wanted := by
  rw [List.mem_filter, List.contains_iff_mem]

theorem mem_alone {wanted : List BlockId} {cs : List (List BlockId)} {x : BlockId} :
    x ∈ alone wanted cs ↔ ∃ c ∈ cs, c.filter wanted.contains = [x] := by
  rw [alone, List.mem_flatMap]
  apply exists_congr
  intro c
  apply and_congr_right
  intro _
  split
  · rename_i a e
    rw [e, List.mem_singleton, List.cons.injEq, and_iff_left rfl]
    exact eq_comm
  · rename_i hne
    constructor
    · intro hx
      exact absurd hx List.not_mem_nil
    · intro e
      exact absurd e (hne x)

theorem mem_of_mem_alone {wanted : List BlockId} {cs : List (List BlockId)} {x : BlockId}
    (hx : x ∈ alone wanted cs) : x ∈ wanted ∧ ∃ c ∈ cs, x ∈ c := by
  obtain ⟨c, hc, e⟩ := mem_alone.mp hx
  have hmem : x ∈ c.filter wanted.contains := by
    rw [e]
    exact List.mem_singleton_self x
  exact ⟨(mem_filter_contains.mp hmem).2, c, hc, (mem_filter_contains.mp hmem).1⟩

theorem pick_cons (wanted c : List BlockId) (cs : List (List BlockId)) :
    (c.filter wanted.contains = [] ∧ pick wanted (c :: cs) = pick wanted cs) ∨
      (∃ a, c.filter wanted.contains = [a] ∧
        pick wanted (c :: cs) = (pick wanted cs).map (a :: ·)) ∨
      (∃ a b rest, c.filter wanted.contains = a :: b :: rest ∧
        pick wanted (c :: cs) = .error ⟨BlockId.sorted c⟩) := by
  simp only [pick]
  cases c.filter wanted.contains with
  | nil => exact .inl ⟨rfl, rfl⟩
  | cons a rest =>
    cases rest with
    | nil => exact .inr (.inl ⟨a, rfl, rfl⟩)
    | cons b rest => exact .inr (.inr ⟨a, b, rest, rfl, rfl⟩)

/-- Picking puts in order the wanted nodes that are alone, unless some component is crowded. -/
theorem pick_eq (wanted : List BlockId) (cs : List (List BlockId)) :
    pick wanted cs =
      match crowded wanted cs with
      | [] => .ok (alone wanted cs)
      | c :: _ => .error ⟨BlockId.sorted c⟩ := by
  induction cs with
  | nil => rfl
  | cons c cs ih =>
    rcases pick_cons wanted c cs with ⟨hf, e⟩ | ⟨a, hf, e⟩ | ⟨a, b, rest, hf, e⟩
    · have hcrowded : crowded wanted (c :: cs) = crowded wanted cs := by simp [crowded, hf]
      have halone : alone wanted (c :: cs) = alone wanted cs := by simp [alone, hf]
      rw [e, ih, hcrowded, halone]
    · have hcrowded : crowded wanted (c :: cs) = crowded wanted cs := by simp [crowded, hf]
      have halone : alone wanted (c :: cs) = a :: alone wanted cs := by simp [alone, hf]
      rw [e, ih, hcrowded, halone]
      cases crowded wanted cs <;> rfl
    · have hcrowded : crowded wanted (c :: cs) = c :: crowded wanted cs := by simp [crowded, hf]
      rw [e, hcrowded]

/-- Of the nodes that are alone, none reaches an earlier one. -/
theorem arranged_alone {g : Graph} {cs : List (List BlockId)} (h : g.Graded cs)
    (wanted : List BlockId) : g.Arranged (alone wanted cs) := by
  induction cs with
  | nil => exact .nil
  | cons c cs ih =>
    have split : alone wanted (c :: cs) = alone wanted [c] ++ alone wanted cs := by simp [alone]
    rw [split, Arranged, List.pairwise_append]
    refine ⟨?_, ih h.tail, fun a ha b hb => ?_⟩
    · show List.Pairwise _ (alone wanted [c])
      unfold alone
      rw [List.flatMap_singleton]
      split
      · exact List.pairwise_singleton ..
      · exact .nil
    · obtain ⟨-, d, hd, had⟩ := mem_of_mem_alone ha
      obtain ⟨-, e, he, hbe⟩ := mem_of_mem_alone hb
      rw [List.mem_singleton] at hd
      subst hd
      exact (List.pairwise_cons.mp h.ordered).1 e he a had b hbe

/-- A crowded component holds two different wanted nodes. -/
theorem exists_of_mem_crowded {g : Graph} {cs : List (List BlockId)} (h : g.Graded cs)
    {wanted c : List BlockId} (hc : c ∈ crowded wanted cs) :
    c ∈ cs ∧ ∃ x ∈ wanted, ∃ y ∈ wanted, x ≠ y ∧ x ∈ c ∧ y ∈ c ∧ g.Joined x y := by
  obtain ⟨hmem, hlen⟩ := List.mem_filter.mp hc
  have hlen := of_decide_eq_true hlen
  refine ⟨hmem, ?_⟩
  match hf : c.filter wanted.contains, hlen with
  | a :: b :: rest, _ =>
    have hn := (h.nodup c hmem).filter wanted.contains
    rw [hf] at hn
    have hab : a ≠ b := by
      intro e
      exact (List.nodup_cons.mp hn).1 (e ▸ List.mem_cons_self ..)
    have ha := mem_filter_contains.mp (hf ▸ List.mem_cons_self .. : a ∈ c.filter wanted.contains)
    have hb := mem_filter_contains.mp
      (hf ▸ List.mem_cons_of_mem a (List.mem_cons_self ..) : b ∈ c.filter wanted.contains)
    have joined := (h.joined c hmem a ha.1 b).mp hb.1
    exact ⟨a, ha.2, b, hb.2, hab, ha.1, hb.1, joined⟩

/-- A wanted node in a component that is not crowded is alone. -/
theorem mem_alone_of_not_mem_crowded {wanted c : List BlockId} {cs : List (List BlockId)}
    (hc : c ∈ cs) (hcrowded : c ∉ crowded wanted cs) {x : BlockId} (hx : x ∈ c) (hw : x ∈ wanted) :
    x ∈ alone wanted cs := by
  have hmem := mem_filter_contains.mpr ⟨hx, hw⟩
  have hlen : ¬ 2 ≤ (c.filter wanted.contains).length := fun hlen =>
    hcrowded (List.mem_filter.mpr ⟨hc, decide_eq_true hlen⟩)
  refine mem_alone.mpr ⟨c, hc, ?_⟩
  match hf : c.filter wanted.contains with
  | [] =>
    rw [hf] at hmem
    exact absurd hmem List.not_mem_nil
  | [a] =>
    rw [hf, List.mem_singleton] at hmem
    rw [hmem]
  | a :: b :: rest =>
    rw [hf] at hlen
    exact absurd (by simp) hlen

/-- The wanted nodes that are alone are those that are joined with no other wanted one. -/
theorem mem_alone_iff {g : Graph} {cs : List (List BlockId)} (h : g.Graded cs)
    {wanted : List BlockId} {x : BlockId} (covered : ∃ c ∈ cs, x ∈ c) :
    x ∈ alone wanted cs ↔ x ∈ wanted ∧ ∀ y ∈ wanted, g.Joined x y → y = x := by
  constructor
  · intro hx
    obtain ⟨hw, -⟩ := mem_of_mem_alone hx
    obtain ⟨c, hc, e⟩ := mem_alone.mp hx
    have hxc : x ∈ c := (mem_filter_contains.mp (e ▸ List.mem_singleton_self x)).1
    refine ⟨hw, fun y hy hxy => ?_⟩
    have hyc := mem_filter_contains.mpr ⟨(h.joined c hc x hxc y).mpr hxy, hy⟩
    rw [e] at hyc
    exact List.mem_singleton.mp hyc
  · intro ⟨hw, single⟩
    obtain ⟨c, hc, hxc⟩ := covered
    refine mem_alone_of_not_mem_crowded hc ?_ hxc hw
    intro hcrowded
    obtain ⟨-, y, hy, z, hz, hne, hyc, hzc, -⟩ := exists_of_mem_crowded h hcrowded
    have hyx := single y hy ((h.joined c hc x hxc y).mp hyc)
    have hzx := single z hz ((h.joined c hc x hxc z).mp hzc)
    exact hne (hyx.trans hzx.symm)

/-- No component is crowded if no two wanted nodes are joined. -/
theorem crowded_eq_nil_iff {g : Graph} {cs : List (List BlockId)} (h : g.Graded cs)
    {wanted : List BlockId} :
    crowded wanted cs = [] ↔
      ∀ x ∈ wanted, ∀ y ∈ wanted, (∃ c ∈ cs, x ∈ c) → g.Joined x y → x = y := by
  constructor
  · intro empty x hx y hy covered hxy
    obtain ⟨c, hc, hxc⟩ := covered
    have uncrowded : c ∉ crowded wanted cs := by
      rw [empty]
      exact List.not_mem_nil
    obtain ⟨d, hd, e⟩ := mem_alone.mp (mem_alone_of_not_mem_crowded hc uncrowded hxc hx)
    have hxd : x ∈ d := (mem_filter_contains.mp (e ▸ List.mem_singleton_self x)).1
    have hyd : y ∈ d.filter wanted.contains :=
      mem_filter_contains.mpr ⟨(h.joined d hd x hxd y).mpr hxy, hy⟩
    rw [e, List.mem_singleton] at hyd
    exact hyd.symm
  · intro apart
    rw [List.eq_nil_iff_forall_not_mem]
    intro c hc
    obtain ⟨hcs, x, hx, y, hy, hne, hxc, -, hxy⟩ := exists_of_mem_crowded h hc
    exact hne (apart x hx y hy ⟨c, hcs, hxc⟩ hxy)

/-- A list of the components holds the members of each as `component` has them. -/
theorem sorted_eq_component {g : Graph} (hg : g.Sound) {cs : List (List BlockId)}
    (h : g.Graded cs) {c : List BlockId} (hc : c ∈ cs) {x : BlockId} (hx : x ∈ c)
    (known : x ∈ g.nodes) : BlockId.sorted c = g.component x := by
  refine BlockId.sorted_congr fun y => ?_
  rw [h.joined c hc x hx y, mem_componentIn hg known]
  rfl

/-! ## Dropping a crowded component -/

theorem filter_contains_congr {wanted kept c : List BlockId}
    (h : ∀ x ∈ c, x ∈ kept ↔ x ∈ wanted) :
    c.filter kept.contains = c.filter wanted.contains := by
  apply List.filter_congr
  intro x hx
  rw [Bool.eq_iff_iff, List.contains_iff_mem, List.contains_iff_mem]
  exact h x hx

theorem alone_congr {wanted kept : List BlockId} {cs : List (List BlockId)}
    (h : ∀ c ∈ cs, ∀ x ∈ c, x ∈ kept ↔ x ∈ wanted) : alone kept cs = alone wanted cs := by
  rw [alone, alone, List.flatMap_def, List.flatMap_def]
  congr 1
  apply List.map_congr_left
  intro c hc
  rw [filter_contains_congr (h c hc)]

theorem crowded_congr {wanted kept : List BlockId} {cs : List (List BlockId)}
    (h : ∀ c ∈ cs, ∀ x ∈ c, x ∈ kept ↔ x ∈ wanted) : crowded kept cs = crowded wanted cs := by
  apply List.filter_congr
  intro c hc
  rw [filter_contains_congr (h c hc)]

/-- Without the members of the first crowded component, the others stay as they are. -/
theorem crowded_drop {g : Graph} {cs : List (List BlockId)} (h : g.Graded cs)
    {wanted kept c : List BlockId} {more : List (List BlockId)}
    (hc : crowded wanted cs = c :: more) (hk : ∀ x, x ∈ kept ↔ x ∈ wanted ∧ x ∉ c) :
    alone kept cs = alone wanted cs ∧ crowded kept cs = more := by
  obtain ⟨before, after, rfl, hbefore, hlen, hmore⟩ := List.filter_eq_cons_iff.mp hc
  have apart : ∀ d ∈ before ++ after, ∀ x ∈ d, x ∈ kept ↔ x ∈ wanted := by
    intro d hd x hx
    rw [hk]
    apply and_iff_left
    intro hxc
    have ordered := List.pairwise_append.mp h.ordered
    rcases List.mem_append.mp hd with hd | hd
    · exact ordered.2.2 d hd c (List.mem_cons_self ..) x hx x hxc (.refl x)
    · exact (List.pairwise_cons.mp ordered.2.1).1 d hd x hxc x hx (.refl x)
  have hbefore' := fun d hd => apart d (List.mem_append_left after hd)
  have hafter := fun d hd => apart d (List.mem_append_right before hd)
  have empty : c.filter kept.contains = [] := by
    rw [List.filter_eq_nil_iff]
    intro x hx hmem
    exact ((hk x).mp (List.contains_iff_mem.mp hmem)).2 hx
  have full := of_decide_eq_true hlen
  have halone : ∀ w, alone w (before ++ c :: after) =
      alone w before ++ (alone w [c] ++ alone w after) := by
    intro w
    simp [alone]
  have hcrowded : crowded kept (before ++ c :: after) =
      crowded kept before ++ crowded kept (c :: after) := by
    simp [crowded]
  have hnone : alone kept [c] = alone wanted [c] := by
    rw [alone, alone, List.flatMap_singleton, List.flatMap_singleton, empty]
    match c.filter wanted.contains, full with
    | _ :: _ :: _, _ => rfl
  refine ⟨?_, ?_⟩
  · rw [halone, halone, alone_congr hbefore', alone_congr hafter, hnone]
  · have hnil : crowded wanted before = [] := List.filter_eq_nil_iff.mpr hbefore
    have hskip : crowded kept (c :: after) = crowded kept after := by simp [crowded, empty]
    rw [hcrowded, crowded_congr hbefore', hnil, hskip, crowded_congr hafter, List.nil_append]
    exact hmore

end Graph
end Workbook
