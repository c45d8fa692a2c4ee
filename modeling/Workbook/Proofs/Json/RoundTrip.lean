import Workbook.Json.Fields
import Workbook.Entries
import Workbook.Proofs.Json.Tokens

/-!
Values are read as they were written.

Reading is followed character by character: from where a value is due, the characters that a value
is written as lead to the place behind it, whatever containers are open (`Exact.isRead`).  So a text
that a value was written to is read as the value (`parse?_render`), and a record with some of its
fields left out is read as its fields (`fields?_record`).  A reader and a writer of some type fit
together if the one gets back what the other writes (`Recovers`); then so do those of lists, pairs
and options.
-/

namespace Workbook
namespace Json

/-- The value has no parts that are read as others than they were: numbers other than integers, and
texts that are no sequences of characters. -/
inductive Exact : Json → Prop
  | null : Exact .null
  | bool (value : Bool) : Exact (.bool value)
  | int (value : Int) : Exact (.int value)
  | text (value : String) : Exact (.text value)
  | list {items : List Json} (h : ∀ j ∈ items, Exact j) : Exact (.list items)
  | object {members : List (String × Json)} (h : ∀ m ∈ members, Exact m.2) : Exact (.object members)

/-! ## Reading on -/

/-- What reading comes to on a text, from where it stands. -/
def readOn (due : Due) (text : List Char) : Option Due := (tokens? .between text).bind (feedAll due)

theorem readOn_nil (due : Due) : readOn due [] = some due := rfl

theorem readOn_of_tokens {due next : Due} {t : Token} {text rest : List Char}
    (h : tokens? .between text = follow (some t) (tokens? .between rest))
    (hf : feed due t = some next) : readOn due text = readOn next rest := by
  rw [readOn, h, readOn]
  cases tokens? .between rest with
  | none => rfl
  | some tokens =>
    show feedAll due (t :: tokens) = feedAll next tokens
    rw [feedAll, hf]

theorem readOn_mark {due next : Due} {c : Char} {m : Mark} (h : mark? c = some m)
    (hf : feed due (.mark m) = some next) (rest : List Char) :
    readOn due (c :: rest) = readOn next rest :=
  readOn_of_tokens (tokens?_mark h rest) hf

/-- A value may come next, inside of the given frames. -/
def Awaits (due : Due) (frames : List Frame) : Prop :=
  ∀ t, t ≠ .mark .closeList → feed due t = beginValue frames t

theorem awaits_value (frames : List Frame) : Awaits (.value frames) frames := fun _ _ => rfl

theorem awaits_item (frames : List Frame) : Awaits (.item frames) (.list [] :: frames) := by
  intro t ht
  rw [feed]
  exact ht

/-- Wherever the value may come next, what it is written as leads behind it. -/
def IsRead (j : Json) : Prop :=
  ∀ {due : Due} {frames : List Frame} {rest : List Char}, Awaits due frames → Ends rest →
    readOn due (j.written ++ rest) = readOn (.after j frames) rest

/-! ## Lists and objects -/

theorem readOn_items {items : List Json} (h : ∀ j ∈ items, j.IsRead) (hne : items ≠ [])
    {due : Due} {done : List Json} {frames : List Frame} (hd : Awaits due (.list done :: frames))
    (rest : List Char) :
    readOn due (writtenItems items ++ ']' :: rest) =
      readOn (.after (.list (done.reverse ++ items)) frames) rest := by
  induction items generalizing due done with
  | nil => exact absurd rfl hne
  | cons item more ih =>
    obtain ⟨first, others⟩ := List.forall_mem_cons.mp h
    cases more with
    | nil =>
      rw [writtenItems, first hd (ends_cons (m := .closeList) rfl rest), readOn_mark rfl rfl,
        List.reverse_cons]
    | cons next more =>
      have written : writtenItems (item :: next :: more) ++ ']' :: rest =
          item.written ++ ',' :: (writtenItems (next :: more) ++ ']' :: rest) := by
        rw [writtenItems, List.append_assoc]
        · rfl
        · nofun
      rw [written, first hd (ends_cons (m := .comma) rfl _), readOn_mark rfl rfl,
        ih others nofun (awaits_value _), List.reverse_cons, List.append_assoc]
      rfl

/-- A member as the reader holds it. -/
def keyed (m : String × Json) : Key × Json := (some m.1, m.2)

theorem ofMembers_keyed (members : List (String × Json)) :
    ofMembers (members.map keyed).reverse = .object members := by
  have read : (members.map keyed).mapM (fun m => m.1.map (·, m.2)) = some members := by
    induction members with
    | nil => rfl
    | cons m rest ih => simp [keyed, ih]
  rw [ofMembers, List.reverse_reverse, read]

theorem readOn_members {members : List (String × Json)} (h : ∀ m ∈ members, m.2.IsRead)
    (hne : members ≠ []) (done : List (String × Json)) (frames : List Frame) (rest : List Char) :
    readOn (.key (done.map keyed).reverse frames) (writtenMembers members ++ '\x7d' :: rest) =
      readOn (.after (.object (done ++ members)) frames) rest := by
  induction members generalizing done with
  | nil => exact absurd rfl hne
  | cons m more ih =>
    obtain ⟨first, others⟩ := List.forall_mem_cons.mp h
    obtain ⟨key, value⟩ := m
    have held : (some key, value) :: (done.map keyed).reverse =
        ((done ++ [(key, value)]).map keyed).reverse := by
      rw [List.map_append, List.reverse_append]
      rfl
    have opened : ∀ tail, Ends tail →
        readOn (.key (done.map keyed).reverse frames)
            (writtenText key ++ ':' :: (value.written ++ tail)) =
          readOn (.after value (.object (done.map keyed).reverse (some key) :: frames)) tail := by
      intro tail ends
      rw [readOn_of_tokens (tokens?_writtenText key _) rfl, readOn_mark rfl rfl,
        first (awaits_value _) ends]
    cases more with
    | nil =>
      rw [writtenMembers, List.append_assoc, List.cons_append,
        opened _ (ends_cons (m := .closeObject) rfl rest), readOn_mark rfl rfl, held,
        ofMembers_keyed]
    | cons next more =>
      have written : writtenMembers ((key, value) :: next :: more) ++ '\x7d' :: rest =
          writtenText key ++
            ':' :: (value.written ++ ',' :: (writtenMembers (next :: more) ++ '\x7d' :: rest)) := by
        rw [writtenMembers]
        · simp only [List.append_assoc, List.cons_append]
        · nofun
      rw [written, opened _ (ends_cons (m := .comma) rfl _), readOn_mark rfl rfl, held,
        ih others nofun, List.append_assoc]
      rfl

/-! ## Values -/

theorem Exact.isRead {j : Json} (h : j.Exact) : j.IsRead := by
  induction h with
  | null =>
    intro due frames rest hd hr
    exact readOn_of_tokens (tokens?_bare nofun (isBare_of_all rfl) rfl hr) (hd _ nofun)
  | bool value =>
    intro due frames rest hd hr
    cases value with
    | true => exact readOn_of_tokens (tokens?_bare nofun (isBare_of_all rfl) rfl hr) (hd _ nofun)
    | false => exact readOn_of_tokens (tokens?_bare nofun (isBare_of_all rfl) rfl hr) (hd _ nofun)
  | int n =>
    intro due frames rest hd hr
    rw [written]
    exact readOn_of_tokens (tokens?_int n hr) (hd _ nofun)
  | text s =>
    intro due frames rest hd _
    rw [written]
    exact readOn_of_tokens (tokens?_writtenText s rest) (hd _ nofun)
  | @list items _ ih =>
    intro due frames rest hd _
    have opened : ∀ tail, readOn due ('[' :: tail) = readOn (.item frames) tail :=
      readOn_mark rfl (hd _ nofun)
    rw [written, List.append_assoc, List.cons_append, opened]
    cases items with
    | nil => exact readOn_mark rfl rfl rest
    | cons item more => exact readOn_items ih nofun (awaits_item frames) rest
  | @object members _ ih =>
    intro due frames rest hd _
    have opened : ∀ tail, readOn due ('\x7b' :: tail) = readOn (.key [] frames) tail :=
      readOn_mark rfl (hd _ nofun)
    rw [written, List.append_assoc, List.cons_append, opened]
    cases members with
    | nil => exact readOn_mark rfl rfl rest
    | cons m more => exact readOn_members ih nofun [] frames rest

/-- A text that a value was written to is read as the value. -/
theorem parse?_render {j : Json} (h : j.Exact) : parse? j.render = some j := by
  have read := h.isRead (awaits_value []) ends_nil
  rw [List.append_nil, readOn_nil, readOn] at read
  rw [parse?, render, String.toList_ofList]
  cases tokens : tokens? .between j.written with
  | none =>
    rw [tokens] at read
    cases read
  | some ts =>
    rw [tokens, Option.bind_some] at read
    show ofTokens? ts = some j
    rw [ofTokens?, read]

/-! ## Lists and records -/

theorem listOf?_ofList {α β : Type} {read : Json → Option β} {write : α → Json} {kept : α → β}
    {as : List α} (h : ∀ a ∈ as, read (write a) = some (kept a)) :
    (ofList write as).listOf? read = some (as.map kept) :=
  mapM_map_eq_some h

/-- The fields of a record that are there, as members. -/
def recordMembers (fields : List (String × Option Json)) : List (String × Json) :=
  fields.filterMap fun f => f.2.map (f.1, ·)

theorem exact_record {fields : List (String × Option Json)}
    (h : ∀ f ∈ fields, ∀ value ∈ f.2, Exact value) : (object (recordMembers fields)).Exact := by
  refine .object fun m hm => ?_
  obtain ⟨f, hf, e⟩ := List.mem_filterMap.mp hm
  obtain ⟨value, hv, rfl⟩ := Option.map_eq_some_iff.mp e
  exact h f hf value hv

theorem filter_recordMembers (fields : List (String × Option Json)) (key : String) :
    (recordMembers fields).filter (·.1 == key) = recordMembers (fields.filter (·.1 == key)) := by
  induction fields with
  | nil => rfl
  | cons f rest ih =>
    obtain ⟨name, value?⟩ := f
    cases value? <;> cases same : name == key <;> simp_all [recordMembers]

/-- Where names are apart, each belongs to one field. -/
theorem filter_eq_singleton {fields : List (String × Option Json)} (h : (fields.map (·.1)).Nodup)
    {f : String × Option Json} (hf : f ∈ fields) : fields.filter (·.1 == f.1) = [f] := by
  induction fields with
  | nil => exact absurd hf List.not_mem_nil
  | cons g rest ih =>
    obtain ⟨unlike, distinct⟩ := List.nodup_cons.mp h
    have apart : ∀ f ∈ rest, f.1 ≠ g.1 := fun f hf e => unlike (List.mem_map.mpr ⟨f, hf, e⟩)
    rw [List.filter_cons]
    rcases List.mem_cons.mp hf with rfl | hf
    · have others : rest.filter (·.1 == f.1) = [] := by
        simpa [List.filter_eq_nil_iff] using apart
      rw [if_pos (beq_self_eq_true _), others]
    · rw [if_neg (by simpa using (apart f hf).symm), ih distinct hf]

theorem member?_record {fields : List (String × Option Json)} (h : (fields.map (·.1)).Nodup) :
    ∀ f ∈ fields, member? (recordMembers fields) f.1 = some f.2 := by
  intro f hf
  rw [member?, filter_recordMembers, filter_eq_singleton h hf]
  obtain ⟨name, value?⟩ := f
  cases value? <;> rfl

/-- A record with some of its fields left out is read as its fields. -/
theorem fields?_record {names : List String} {fields : List (String × Option Json)}
    (h : names.Nodup) (e : fields.map (·.1) = names) (rows : Rows) :
    (object (recordMembers fields)).fields? rows names = some (fields.map (·.2)) := by
  subst e
  exact mapM_map_eq_some (member?_record h)

/-- A record in which nothing is left out is read as its fields. -/
theorem fields?_object {names : List String} (members : List (String × Json)) (h : names.Nodup)
    (e : members.map (·.1) = names) (rows : Rows) :
    (object members).fields? rows names = some (members.map fun m => some m.2) := by
  have whole : recordMembers (members.map fun m => (m.1, some m.2)) = members := by
    rw [recordMembers, List.filterMap_map]
    exact List.filterMap_some
  have same : (members.map fun m => (m.1, some m.2)).map (·.1) = names := by
    rw [List.map_map]
    exact e
  have read := fields?_record h same rows
  rwa [whole, List.map_map] at read

theorem exact_ofVariant {name : String} {value : Json} (h : value.Exact) :
    (ofVariant name value).Exact :=
  .object (by simpa using h)

/-! ## Readers and writers -/

/-- A reader gets back whatever a writer writes, and nothing in it is lost in a text. -/
structure Recovers {α : Type} (read : Json → Option α) (write : α → Json) : Prop where
  read_write : ∀ a, read (write a) = some a
  exact : ∀ a, (write a).Exact

namespace Recovers

variable {α β : Type} {read : Json → Option α} {write : α → Json}

/-- What was written to a text is read from it. -/
theorem bind_parse? (h : Recovers read write) (a : α) :
    (parse? (write a).render).bind read = some a := by
  rw [parse?_render (h.exact a), Option.bind_some, h.read_write]

theorem text : Recovers text? .text where
  read_write _ := rfl
  exact := .text

theorem list (h : Recovers read write) : Recovers (listOf? read) (ofList write) where
  read_write as := by
    have read : (ofList write as).listOf? read = some (as.map fun a => a) :=
      listOf?_ofList fun a _ => h.read_write a
    rwa [List.map_id_fun'] at read
  exact as := by
    refine .list fun j hj => ?_
    obtain ⟨a, -, rfl⟩ := List.mem_map.mp hj
    exact h.exact a

theorem pair (h : Recovers read write) {read' : Json → Option β} {write' : β → Json}
    (h' : Recovers read' write') :
    Recovers (pairOf? read read') fun p => .list [write p.1, write' p.2] where
  read_write p := by rw [pairOf?, h.read_write, h'.read_write]
  exact p := by
    refine .list ?_
    simpa using ⟨h.exact p.1, h'.exact p.2⟩

theorem nullOr?_write (h : Recovers read write) {a : α} (ne : write a ≠ .null) :
    nullOr? read (write a) = some (some a) := by
  have read : nullOr? read (write a) = (read (write a)).map some := by
    rw [nullOr?]
    exact ne
  rw [read, h.read_write]
  rfl

/-- Null is kept for what is missing. -/
theorem option (h : Recovers read write) (ne : ∀ a, write a ≠ .null) :
    Recovers (nullOr? read) (ofOption write) where
  read_write
    | none => rfl
    | some a => h.nullOr?_write (ne a)
  exact
    | none => .null
    | some a => h.exact a

end Recovers

end Json
end Workbook
