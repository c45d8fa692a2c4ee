import Mathlib.Data.List.DropRight
import Mathlib.Data.List.TakeWhile
import Workbook.Reference

/-!
The grammar of references.

`Mention.Stands` says when a name with its marker, between two texts, is a reference, without saying
how references are found.  `Cut` says of pieces that each mention among them stands so, and that
none could begin at any of the other characters; pieces are cut like that from a text in one way
only, and it is the way that `pieces` takes (`cut_iff`).  So the references of a text are all that
the grammar allows, but for those that begin inside another one (`references_exact`).
-/

namespace Workbook

namespace Mention

/-- A run of word characters and hyphens with a word character at both ends. -/
structure IsWord (name : List Char) : Prop where
  inside : ∀ c ∈ name, Reference.isNameChar c = true
  first : ∃ c, name.head? = some c ∧ Text.isWordChar c = true
  last : ∃ c, name.getLast? = some c ∧ Text.isWordChar c = true

/-- What makes a name with its marker a reference, between the text before it and the text after
it. -/
inductive Stands (before : List Char) : Mention → List Char → Prop
  | hash {name after : List Char}
    (boundary : ∀ c, before.getLast? = some c → Text.isWordChar c = false) (word : IsWord name)
    (longest : ∀ longer, longer <+: name ++ after → IsWord longer → longer.length ≤ name.length) :
    Stands before ⟨.hash, name⟩ after
  | bracket {name after : List Char} (nonempty : name ≠ []) (free : ∀ c ∈ name, c ≠ '[' ∧ c ≠ ']') :
    Stands before ⟨.bracket, name⟩ after

/-- A mention stands at the start of the text, which follows the text before. -/
def Begins (before text : List Char) : Prop :=
  ∃ (m : Mention) (after : List Char), text = m.written ++ after ∧ m.Stands before after

end Mention

namespace Reference

open Mention (IsWord Begins)

/-! ## Names after a number sign -/

theorem isWordChar_hyphen : Text.isWordChar '-' = false := by decide

theorem isNameChar_of_isWordChar {c : Char} (h : Text.isWordChar c = true) :
    isNameChar c = true := by
  rw [isNameChar, h, Bool.true_or]

theorem hashName_eq (text : List Char) :
    hashName text = (text.takeWhile isNameChar).rdropWhile (· == '-') := rfl

theorem isWord_hashName {c : Char} (h : Text.isWordChar c = true) (rest : List Char) :
    IsWord (hashName (c :: rest)) := by
  have run : (c :: rest).takeWhile isNameChar = c :: rest.takeWhile isNameChar :=
    List.takeWhile_cons_of_pos (isNameChar_of_isWordChar h)
  have pre : hashName (c :: rest) <+: c :: rest.takeWhile isNameChar := by
    rw [hashName_eq, run]
    exact List.rdropWhile_prefix (p := (· == '-')) _
  have nonempty : hashName (c :: rest) ≠ [] := by
    rw [hashName_eq, run, Ne, List.rdropWhile_eq_nil_iff]
    intro all
    have e : c = '-' := by simpa using all c (List.mem_cons_self ..)
    rw [e, isWordChar_hyphen] at h
    cases h
  have inside : ∀ d ∈ hashName (c :: rest), isNameChar d = true := by
    intro d hd
    have hd : d ∈ (c :: rest).takeWhile isNameChar := by
      rw [run]
      exact pre.subset hd
    exact List.mem_takeWhile_imp hd
  refine ⟨inside, ⟨c, ?_, h⟩, ⟨_, List.getLast?_eq_getLast_of_ne_nil nonempty, ?_⟩⟩
  · cases e : hashName (c :: rest) with
    | nil => exact absurd e nonempty
    | cons d name =>
      rw [e, List.cons_prefix_cons] at pre
      rw [pre.1]
      rfl
  · have hyphen : ¬ ((hashName (c :: rest)).getLast nonempty == '-') = true :=
      List.rdropWhile_last_not (p := (· == '-')) (l := (c :: rest).takeWhile isNameChar) nonempty
    have name := inside _ (List.getLast_mem nonempty)
    rw [isNameChar, Bool.or_eq_true] at name
    exact name.resolve_right hyphen

/-- No longer start of a text is a word. -/
theorem length_le_hashName {text name : List Char} (pre : name <+: text) (word : IsWord name) :
    name.length ≤ (hashName text).length := by
  have run : name <+: text.takeWhile isNameChar := by
    obtain ⟨after, rfl⟩ := pre
    rw [List.takeWhile_append_of_pos word.inside]
    exact List.prefix_append ..
  have parts := List.rdropWhile_append_rtakeWhile (p := (· == '-')) (l := text.takeWhile isNameChar)
  rw [← hashName_eq] at parts
  rw [← parts] at run
  rcases List.prefix_or_prefix_of_prefix run (List.prefix_append ..) with shorter | ⟨more, rfl⟩
  · exact shorter.length_le
  · -- what is beyond the name found are hyphens, and a word does not end in one
    obtain ⟨c, hc, hw⟩ := word.last
    by_cases nil : more = []
    · rw [nil, List.append_nil]
    · rw [List.getLast?_append_of_ne_nil _ nil] at hc
      have hyphens := (List.prefix_append_right_inj _).mp run
      have hyphen : c = '-' := by
        simpa using List.mem_rtakeWhile_imp (hyphens.subset (List.mem_of_getLast? hc))
      rw [hyphen, isWordChar_hyphen] at hw
      cases hw

/-! ## Mentions at a place -/

/-- Whether the last character of a text is a word character. -/
def endsInWord (before : List Char) : Bool := before.getLast?.any Text.isWordChar

theorem endsInWord_concat (before : List Char) (c : Char) :
    endsInWord (before ++ [c]) = Text.isWordChar c := by
  rw [endsInWord, List.getLast?_concat]
  rfl

theorem endsInWord_eq_false_iff {before : List Char} :
    endsInWord before = false ↔ ∀ c, before.getLast? = some c → Text.isWordChar c = false := by
  rw [endsInWord]
  cases before.getLast? with
  | none => simp
  | some c => simp

theorem takeWhile_name {name : List Char} (free : ∀ c ∈ name, c ≠ '[' ∧ c ≠ ']')
    (after : List Char) :
    (name ++ ']' :: after).takeWhile (fun d => d != '[' && d != ']') = name := by
  have inside : ∀ c ∈ name, (c != '[' && c != ']') = true := by
    simpa using free
  rw [List.takeWhile_append_of_pos inside, List.takeWhile_cons_of_neg (by decide), List.append_nil]

theorem stands_of_mentionAt? {before after rest : List Char} {c : Char} {m : Mention}
    (e : c :: rest = m.written ++ after)
    (found : mentionAt? (endsInWord before) c rest = some m) : m.Stands before after := by
  unfold mentionAt? at found
  split at found
  case isTrue hash =>
    cases rest with
    | nil => cases found
    | cons d rest =>
      simp only [Option.ite_none_right_eq_some, Bool.and_eq_true, Bool.not_eq_true',
        Option.some.injEq] at found
      obtain ⟨⟨boundary, hd⟩, rfl⟩ := found
      have text : d :: rest = hashName (d :: rest) ++ after := (List.cons.inj e).2
      refine .hash (endsInWord_eq_false_iff.mp boundary) (isWord_hashName hd rest) ?_
      intro longer pre word
      rw [← text] at pre
      exact length_le_hashName pre word
  case isFalse =>
    split at found
    case isTrue bracket =>
      simp only [Option.ite_none_right_eq_some, Bool.and_eq_true, Bool.not_eq_true',
        Option.some.injEq] at found
      obtain ⟨⟨nonempty, closed⟩, rfl⟩ := found
      refine .bracket (by simpa using nonempty) fun d hd => ?_
      simpa using List.mem_takeWhile_imp hd
    case isFalse => cases found

theorem mentionAt?_of_stands {before after rest : List Char} {c : Char} {m : Mention}
    (e : c :: rest = m.written ++ after) (stands : m.Stands before after) :
    mentionAt? (endsInWord before) c rest = some m := by
  cases stands with
  | @hash name _ boundary word longest =>
    obtain ⟨d, hd, hw⟩ := word.first
    obtain ⟨name, rfl⟩ := List.head?_eq_some_iff.mp hd
    have hash : c = '#' := (List.cons.inj e).1
    have text : rest = d :: (name ++ after) := (List.cons.inj e).2
    have found : hashName rest = d :: name := by
      obtain ⟨beyond, pre⟩ := hashName_append rest
      have pre : hashName rest <+: d :: name ++ after := ⟨beyond, pre.trans text⟩
      have shorter := longest _ pre (text ▸ isWord_hashName hw (name ++ after))
      have longer : (d :: name).length ≤ (hashName rest).length :=
        length_le_hashName (text ▸ List.prefix_append (d :: name) after) word
      exact (List.prefix_of_prefix_length_le pre (List.prefix_append ..) shorter).eq_of_length_le
        longer
    rw [← found]
    unfold mentionAt?
    rw [if_pos hash, text]
    dsimp only
    rw [endsInWord_eq_false_iff.mpr boundary, hw]
    rfl
  | @bracket name _ nonempty free =>
    have bracket : c = '[' := (List.cons.inj e).1
    have text : rest = name ++ [']'] ++ after := (List.cons.inj e).2
    unfold mentionAt?
    rw [bracket, if_neg (by decide), if_pos rfl, text, List.append_assoc, List.singleton_append]
    dsimp only
    rw [takeWhile_name free, List.drop_left]
    simp [nonempty]

/-- A mention is found where it stands, and nowhere else. -/
theorem stands_iff {before after rest : List Char} {c : Char} {m : Mention}
    (e : c :: rest = m.written ++ after) :
    m.Stands before after ↔ mentionAt? (endsInWord before) c rest = some m :=
  ⟨mentionAt?_of_stands e, stands_of_mentionAt? e⟩

/-! ## Pieces -/

/-- The pieces of a text that stands after another one. -/
def piecesAfter (before text : List Char) : List Piece := piecesFrom 0 (endsInWord before) text

theorem written_piecesAfter (before text : List Char) :
    (piecesAfter before text).flatMap Piece.written = text :=
  flatMap_written_piecesFrom 0 _ text

theorem piecesFrom_append (before skipped text : List Char) :
    piecesFrom skipped.length (endsInWord before) (skipped ++ text) =
      piecesAfter (before ++ skipped) text := by
  induction skipped generalizing before with
  | nil => rw [List.append_nil]; rfl
  | cons c skipped ih =>
    have step : piecesFrom (skipped.length + 1) (endsInWord before) (c :: (skipped ++ text)) =
        piecesFrom skipped.length (Text.isWordChar c) (skipped ++ text) := rfl
    rw [List.length_cons, List.cons_append, step, ← endsInWord_concat before c, ih,
      List.append_assoc]
    rfl

theorem piecesAfter_mention {before after : List Char} {m : Mention} (h : m.Stands before after) :
    piecesAfter before (m.written ++ after) =
      .mention m :: piecesAfter (before ++ m.written) after := by
  obtain ⟨c, inner, e⟩ := List.exists_cons_of_length_pos (length_written_pos m)
  have whole : c :: (inner ++ after) = m.written ++ after := by rw [e, List.cons_append]
  have found := (stands_iff whole).mp h
  have skip := piecesFrom_append (before ++ [c]) inner after
  rw [endsInWord_concat, List.append_assoc] at skip
  simp only [piecesAfter, e, List.cons_append, piecesFrom, found, List.length_cons,
    Nat.add_sub_cancel]
  rw [skip]
  rfl

theorem piecesAfter_plain {before rest : List Char} {c : Char}
    (h : ¬ Begins before (c :: rest)) :
    piecesAfter before (c :: rest) = .plain c :: piecesAfter (before ++ [c]) rest := by
  have found : mentionAt? (endsInWord before) c rest = none := by
    cases found : mentionAt? (endsInWord before) c rest with
    | none => rfl
    | some m =>
      obtain ⟨after, e⟩ := written_append_of_mentionAt? found
      exact absurd ⟨m, after, e.symm, (stands_iff e.symm).mpr found⟩ h
  simp only [piecesAfter, piecesFrom, found, endsInWord_concat]

/-- In pieces that follow a text, mentions stand where they are, and no mention stands at the other
characters. -/
inductive Cut : List Char → List Piece → Prop
  | nil (before : List Char) : Cut before []
  | mention {before : List Char} {m : Mention} {rest : List Piece}
    (stands : m.Stands before (rest.flatMap Piece.written))
    (more : Cut (before ++ m.written) rest) : Cut before (.mention m :: rest)
  | plain {before : List Char} {c : Char} {rest : List Piece}
    (none : ¬ Begins before (c :: rest.flatMap Piece.written))
    (more : Cut (before ++ [c]) rest) : Cut before (.plain c :: rest)

theorem cut_piecesAfter (before text : List Char) : Cut before (piecesAfter before text) := by
  match text with
  | [] => exact .nil before
  | c :: rest =>
    by_cases found : Begins before (c :: rest)
    · obtain ⟨m, after, e, stands⟩ := found
      rw [e, piecesAfter_mention stands]
      refine .mention ?_ (cut_piecesAfter (before ++ m.written) after)
      rwa [written_piecesAfter]
    · rw [piecesAfter_plain found]
      refine .plain ?_ (cut_piecesAfter (before ++ [c]) rest)
      rwa [written_piecesAfter]
termination_by text.length
decreasing_by
  · have shorter := congrArg List.length e
    have := length_written_pos m
    simp only [List.length_cons, List.length_append] at shorter ⊢
    omega
  · exact Nat.lt_succ_self _

/-- A text is cut in one way only. -/
theorem cut_iff {before : List Char} {ps : List Piece} :
    Cut before ps ↔ ps = piecesAfter before (ps.flatMap Piece.written) := by
  constructor
  · intro h
    induction h with
    | nil => rfl
    | mention stands _ ih =>
      have cut := piecesAfter_mention stands
      rw [← ih] at cut
      exact cut.symm
    | plain none _ ih =>
      have cut := piecesAfter_plain none
      rw [← ih] at cut
      exact cut.symm
  · intro h
    rw [h]
    exact cut_piecesAfter ..

theorem Cut.back {before : List Char} {front back : List Piece} (h : Cut before (front ++ back)) :
    Cut (before ++ front.flatMap Piece.written) back := by
  induction front generalizing before with
  | nil =>
    rw [List.flatMap_nil, List.append_nil]
    exact h
  | cons p front ih =>
    rw [List.flatMap_cons, ← List.append_assoc]
    cases h with
    | mention _ more => exact ih more
    | plain _ more => exact ih more

/-- A place in a text is between two of its pieces, or inside one of them. -/
theorem between_or_inside {ps : List Piece} {before after : List Char}
    (h : ps.flatMap Piece.written = before ++ after) :
    (∃ front back, ps = front ++ back ∧ front.flatMap Piece.written = before ∧
        back.flatMap Piece.written = after) ∨
      ∃ front p back u v, ps = front ++ p :: back ∧ p.written = u ++ v ∧ u ≠ [] ∧ v ≠ [] ∧
        before = front.flatMap Piece.written ++ u := by
  induction ps generalizing before with
  | nil =>
    obtain ⟨rfl, rfl⟩ := List.append_eq_nil_iff.mp h.symm
    exact .inl ⟨[], [], rfl, rfl, rfl⟩
  | cons p ps ih =>
    rw [List.flatMap_cons] at h
    by_cases start : before = []
    · exact .inl ⟨[], p :: ps, rfl, start.symm, by rw [List.flatMap_cons, h, start]; rfl⟩
    · rcases List.append_eq_append_iff.mp h with
        ⟨rest, rfl, more⟩ | ⟨rest, inner, rfl⟩
      · rcases ih more with
          ⟨front, back, rfl, rfl, rfl⟩ | ⟨front, q, back, u, v, rfl, e, hu, hv, rfl⟩
        · exact .inl ⟨p :: front, back, rfl, rfl, rfl⟩
        · exact .inr ⟨p :: front, q, back, u, v, rfl, e, hu, hv, (List.append_assoc ..).symm⟩
      · by_cases stop : rest = []
        · rw [stop, List.append_nil] at inner
          exact .inl ⟨[p], ps, rfl, by simp [inner], by rw [stop]; rfl⟩
        · exact .inr ⟨[], p, ps, before, rest, rfl, inner, start, stop, rfl⟩

end Reference

/-- The reference that a mention is, after the text before it. -/
def Mention.referenceAfter (m : Mention) (before : List Char) : Reference where
  name := m.text
  marker := m.marker
  start := Text.byteLength before
  stop := Text.byteLength (before ++ m.written)

namespace Reference

open Text (byteLength)

/-! ## References -/

theorem ofPieces_mention (before : List Char) (m : Mention) (ps : List Piece) :
    ofPieces (byteLength before) (.mention m :: ps) =
      m.referenceAfter before :: ofPieces (byteLength (before ++ m.written)) ps := by
  rw [Mention.referenceAfter, Text.byteLength_append]
  rfl

theorem ofPieces_append (before : List Char) (ps qs : List Piece) :
    ofPieces (byteLength before) (ps ++ qs) =
      ofPieces (byteLength before) ps ++
        ofPieces (byteLength (before ++ ps.flatMap Piece.written)) qs := by
  induction ps generalizing before with
  | nil => rw [List.flatMap_nil, List.append_nil]; rfl
  | cons p ps ih =>
    have more := ih (before ++ p.written)
    rw [List.append_assoc, ← List.flatMap_cons, Text.byteLength_append before p.written] at more
    cases p with
    | plain c => exact more
    | mention m => exact congrArg (_ :: ·) more

theorem mem_ofPieces {before : List Char} {ps : List Piece} {r : Reference} :
    r ∈ ofPieces (byteLength before) ps ↔
      ∃ front m back, ps = front ++ .mention m :: back ∧
        r = m.referenceAfter (before ++ front.flatMap Piece.written) := by
  constructor
  · intro hr
    induction ps generalizing before with
    | nil => cases hr
    | cons p ps ih =>
      have more : r ∈ ofPieces (byteLength (before ++ p.written)) ps →
          ∃ front m back, p :: ps = front ++ .mention m :: back ∧
            r = m.referenceAfter (before ++ front.flatMap Piece.written) := by
        intro hr
        obtain ⟨front, m, back, rfl, rfl⟩ := ih hr
        exact ⟨p :: front, m, back, rfl, by rw [List.flatMap_cons, ← List.append_assoc]⟩
      cases p with
      | plain c =>
        apply more
        rw [Text.byteLength_append]
        exact hr
      | mention m =>
        rw [ofPieces_mention] at hr
        rcases List.mem_cons.mp hr with rfl | hr
        · exact ⟨[], m, ps, rfl, by rw [List.flatMap_nil, List.append_nil]⟩
        · exact more hr
  · rintro ⟨front, m, back, rfl, rfl⟩
    rw [ofPieces_append, ofPieces_mention]
    exact List.mem_append_right _ (List.mem_cons_self ..)

theorem start_lt_stop (m : Mention) (before : List Char) :
    (m.referenceAfter before).start < (m.referenceAfter before).stop := by
  have := Text.byteLength_pos (List.ne_nil_of_length_pos (length_written_pos m))
  simp only [Mention.referenceAfter, Text.byteLength_append]
  omega

theorem pairwise_ofPieces (before : List Char) (ps : List Piece) :
    (ofPieces (byteLength before) ps).Pairwise fun r q => r.start < q.start ∧ r.stop ≤ q.start := by
  induction ps generalizing before with
  | nil => exact .nil
  | cons p ps ih =>
    cases p with
    | plain c =>
      have more := ih (before ++ [c])
      rwa [Text.byteLength_append] at more
    | mention m =>
      rw [ofPieces_mention]
      refine .cons (fun q hq => ?_) (ih _)
      obtain ⟨front, m', back, -, rfl⟩ := mem_ofPieces.mp hq
      have first := start_lt_stop m before
      have later : byteLength (before ++ m.written) ≤
          (m'.referenceAfter (before ++ m.written ++ front.flatMap Piece.written)).start := by
        rw [Mention.referenceAfter, Text.byteLength_append (before ++ m.written)]
        exact Nat.le_add_right ..
      exact ⟨Nat.lt_of_lt_of_le first later, later⟩

end Reference

open Reference (Cut)

theorem cut_pieces (text : String) : Cut [] (pieces text) :=
  Reference.cut_piecesAfter [] text.toList

theorem mem_references {text : String} {r : Reference} :
    r ∈ references text ↔ ∃ front m back, pieces text = front ++ .mention m :: back ∧
      r = m.referenceAfter (front.flatMap Piece.written) := by
  have atStart : references text = Reference.ofPieces (Text.byteLength []) (pieces text) := rfl
  rw [atStart, Reference.mem_ofPieces]
  simp only [List.nil_append]

/-- From its start up to its stop, a reference covers the bytes of the mention. -/
theorem bytes_referenceAfter (before : List Char) (m : Mention) (after : List Char) :
    ((Text.utf8 (String.ofList (before ++ m.written ++ after))).take
        (m.referenceAfter before).stop).drop (m.referenceAfter before).start =
      Text.utf8 (String.ofList m.written) := by
  rw [Mention.referenceAfter, Text.utf8_ofList_append, List.take_left' (Text.length_utf8_ofList _),
    Text.utf8_ofList_append, List.drop_left' (Text.length_utf8_ofList _)]

/-- The references of a text stand in it one after another, each with the bytes of a mention, its
marker and its name, and with all that the grammar asks of it.  Wherever a mention stands there is
its reference, unless another one began before and has not ended. -/
theorem references_exact (text : String) :
    (∀ r ∈ references text, ∃ (before : List Char) (m : Mention) (after : List Char),
        text.toList = before ++ m.written ++ after ∧ m.Stands before after ∧
          r = m.referenceAfter before ∧
          ((Text.utf8 text).take r.stop).drop r.start = Text.utf8 (String.ofList m.written)) ∧
      ((references text).Pairwise fun r q => r.start < q.start ∧ r.stop ≤ q.start) ∧
      ∀ (before : List Char) (m : Mention) (after : List Char),
        text.toList = before ++ m.written ++ after → m.Stands before after →
          m.referenceAfter before ∈ references text ∨
            ∃ r ∈ references text, r.start < Text.byteLength before ∧
              Text.byteLength before < r.stop := by
  have written := written_pieces text
  have cut := cut_pieces text
  refine ⟨fun r hr => ?_, Reference.pairwise_ofPieces [] _, fun before m after e stands => ?_⟩
  · obtain ⟨front, m, back, split, rfl⟩ := mem_references.mp hr
    rw [split] at cut written
    cases cut.back with
    | mention stands =>
      have e : text.toList =
          front.flatMap Piece.written ++ m.written ++ back.flatMap Piece.written := by
        rw [← written, List.flatMap_append, List.flatMap_cons, ← List.append_assoc]
        rfl
      refine ⟨_, m, _, e, stands, rfl, ?_⟩
      rw [← bytes_referenceAfter _ m (back.flatMap Piece.written), ← e, String.ofList_toList]
  · rw [e, List.append_assoc] at written
    rcases Reference.between_or_inside written with
      ⟨front, back, split, rfl, rest⟩ | ⟨front, p, back, u, v, split, inner, hu, hv, rfl⟩
    · left
      rw [split] at cut
      have there := Reference.cut_iff.mp cut.back
      rw [rest, List.nil_append, Reference.piecesAfter_mention stands] at there
      exact mem_references.mpr ⟨front, m, _, there ▸ split, rfl⟩
    · right
      cases p with
      | plain c =>
        have short := congrArg List.length inner
        have := List.length_pos_iff.mpr hu
        have := List.length_pos_iff.mpr hv
        simp only [Piece.written, List.length_cons, List.length_nil, List.length_append] at short
        omega
      | mention m' =>
        refine ⟨_, mem_references.mpr ⟨front, m', back, split, rfl⟩, ?_⟩
        have hu := Text.byteLength_pos hu
        have hv := Text.byteLength_pos hv
        have inner : m'.written = u ++ v := inner
        simp only [Mention.referenceAfter, Text.byteLength_append, inner]
        omega

set_option maxRecDepth 10000 in
/-- A number sign after a letter is no marker, a hyphen at the end is left out, and a mention that
stands in brackets is inside another one. -/
theorem references_exact_in_brackets :
    let text := "Ä#b #c-d- [#ß] ##[é"
    let m : Mention := ⟨.hash, ['c', '-', 'd']⟩
    let inner : Mention := ⟨.hash, ['ß']⟩
    text.toList = "Ä#b ".toList ++ m.written ++ "- [#ß] ##[é".toList ∧
      m.Stands "Ä#b ".toList "- [#ß] ##[é".toList ∧
      text.toList = "Ä#b #c-d- [".toList ++ inner.written ++ "] ##[é".toList ∧
      inner.Stands "Ä#b #c-d- [".toList "] ##[é".toList ∧
      references text = [⟨"c-d", .hash, 5, 9⟩, ⟨"#ß", .bracket, 11, 16⟩] ∧
      m.referenceAfter "Ä#b ".toList ∈ references text ∧
      ∃ r ∈ references text, r.start < 12 ∧ 12 < r.stop := by
  intro text m inner
  have stands : m.Stands "Ä#b ".toList "- [#ß] ##[é".toList ∧
      inner.Stands "Ä#b #c-d- [".toList "] ##[é".toList :=
    ⟨(Reference.stands_iff rfl).mpr (by decide +kernel),
      (Reference.stands_iff rfl).mpr (by decide +kernel)⟩
  have all : references text = [⟨"c-d", .hash, 5, 9⟩, ⟨"#ß", .bracket, 11, 16⟩] := by decide +kernel
  obtain ⟨-, -, found⟩ := references_exact text
  refine ⟨by decide +kernel, stands.1, by decide +kernel, stands.2, all, ?_, ?_⟩
  · have there := found "Ä#b ".toList m "- [#ß] ##[é".toList (by decide +kernel) stands.1
    refine there.resolve_right ?_
    rw [all]
    decide +kernel
  · have there := found "Ä#b #c-d- [".toList inner "] ##[é".toList (by decide +kernel) stands.2
    refine there.resolve_left ?_
    rw [all]
    decide +kernel

end Workbook
