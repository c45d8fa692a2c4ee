import Workbook.Proofs.Reference.Grammar

/-!
Bracketed names between texts.

No mention runs into an opening bracket, and what follows a closing bracket is read as at the start
of a text.  So a bracketed name splits the text around it: its pieces are those of the text before,
the name, and those of the text after (`pieces_around`), and its references likewise, with the spans
of the later ones moved along (`references_around`).
-/

namespace Workbook

/-- What starts a text starts it also without a part that begins with a character it lacks. -/
theorem prefix_of_not_mem {α : Type} {xs ys zs : List α} {c : α} (pre : xs <+: ys ++ c :: zs)
    (hc : c ∉ xs) : xs <+: ys := by
  rcases List.prefix_or_prefix_of_prefix pre (List.prefix_append ys _) with short | ⟨more, rfl⟩
  · exact short
  · cases more with
    | nil => exact ⟨[], (List.append_nil _).trans (List.append_nil ys)⟩
    | cons d more =>
      have same : d = c := (List.cons_prefix_cons.mp ((List.prefix_append_right_inj ys).mp pre)).1
      exact absurd (List.mem_append_right ys (same ▸ List.mem_cons_self ..)) hc

namespace Mention

theorem IsWord.bracket_notMem {name : List Char} (word : IsWord name) : '[' ∉ name := by
  intro inside
  have : Reference.isNameChar '[' = false := by decide
  rw [word.inside _ inside] at this
  cases this

theorem Stands.bracket_notMem_tail {before after : List Char} {m : Mention}
    (h : m.Stands before after) : '[' ∉ m.written.tail := by
  cases h with
  | hash _ word _ => exact word.bracket_notMem
  | bracket _ free =>
    intro inside
    rcases List.mem_append.mp inside with inside | inside
    · exact (free _ inside).1 rfl
    · exact absurd inside (by decide)

/-- An opening bracket later in the text makes no difference. -/
theorem stands_append_bracket {before after rest : List Char} {m : Mention} :
    m.Stands before (after ++ '[' :: rest) ↔ m.Stands before after := by
  constructor
  · intro h
    cases h with
    | hash boundary word longest =>
      refine .hash boundary word fun longer pre hw => longest longer ?_ hw
      rw [← List.append_assoc]
      exact pre.trans (List.prefix_append ..)
    | bracket nonempty free => exact .bracket nonempty free
  · intro h
    cases h with
    | hash boundary word longest =>
      refine .hash boundary word fun longer pre hw => longest longer ?_ hw
      rw [← List.append_assoc] at pre
      exact prefix_of_not_mem pre hw.bracket_notMem
    | bracket nonempty free => exact .bracket nonempty free

theorem begins_of_append_bracket {before text rest : List Char} {c : Char}
    (h : Begins before (c :: (text ++ '[' :: rest))) : Begins before (c :: text) := by
  obtain ⟨m, after, e, stands⟩ := h
  have free := stands.bracket_notMem_tail
  obtain ⟨d, inner, ew⟩ := List.exists_cons_of_length_pos (Reference.length_written_pos m)
  rw [ew] at e free
  obtain ⟨same, e⟩ := List.cons.inj e
  obtain ⟨after', rfl⟩ := prefix_of_not_mem ⟨after, e.symm⟩ free
  rw [List.append_assoc] at e
  rw [← List.append_cancel_left e, stands_append_bracket] at stands
  exact ⟨m, after', by rw [ew, same]; rfl, stands⟩

end Mention

namespace Reference

open Text (byteLength)
open Mention (Begins)

/-- Pieces that are cut rightly up to an opening bracket, and from it on, are so together. -/
theorem Cut.append {before rest : List Char} {front back : List Piece} (hf : Cut before front)
    (hb : Cut (before ++ front.flatMap Piece.written) back)
    (bracket : back.flatMap Piece.written = '[' :: rest) : Cut before (front ++ back) := by
  induction hf with
  | nil =>
    rw [List.flatMap_nil, List.append_nil] at hb
    exact hb
  | mention stands _ ih =>
    rw [List.flatMap_cons, ← List.append_assoc] at hb
    refine .mention ?_ (ih hb)
    show Mention.Stands _ _ ((_ ++ back).flatMap Piece.written)
    rw [List.flatMap_append, bracket]
    exact Mention.stands_append_bracket.mpr stands
  | plain none _ ih =>
    rw [List.flatMap_cons, ← List.append_assoc] at hb
    refine .plain ?_ (ih hb)
    show ¬ Begins _ (_ :: (_ ++ back).flatMap Piece.written)
    rw [List.flatMap_append, bracket]
    exact fun found => none (Mention.begins_of_append_bracket found)

/-- After a closing bracket a text is cut as at the start. -/
theorem piecesAfter_closed (before text : List Char) :
    piecesAfter (before ++ [']']) text = piecesAfter [] text := by
  have closed : endsInWord (before ++ [']']) = endsInWord [] := by
    rw [endsInWord_concat]
    decide
  rw [piecesAfter, closed, piecesAfter]

/-- A reference in a text that stands `k` bytes further on. -/
def shift (k : Nat) (r : Reference) : Reference :=
  { r with start := k + r.start, stop := k + r.stop }

theorem ofPieces_add (k offset : Nat) (ps : List Piece) :
    ofPieces (k + offset) ps = (ofPieces offset ps).map (shift k) := by
  induction ps generalizing offset with
  | nil => rfl
  | cons p ps ih =>
    have more := ih (offset + byteLength p.written)
    cases p with
    | plain c => exact (congrArg (ofPieces · ps) (Nat.add_assoc ..)).trans more
    | mention m =>
      simp only [ofPieces, List.map_cons, shift, Nat.add_assoc]
      rw [more]

end Reference

section
variable (pre post : String) {n : String} (nonempty : n ≠ "")
  (free : ∀ c ∈ n.toList, c ≠ '[' ∧ c ≠ ']')

include nonempty free

theorem pieces_around :
    pieces (pre ++ "[" ++ n ++ "]" ++ post) =
      pieces pre ++ .mention ⟨.bracket, n.toList⟩ :: pieces post := by
  have name : n.toList ≠ [] := fun e => nonempty (String.toList_eq_nil_iff.mp e)
  have back : Reference.Cut ([] ++ (pieces pre).flatMap Piece.written)
      (.mention ⟨.bracket, n.toList⟩ :: pieces post) := by
    refine .mention (.bracket name free) ?_
    have there := Reference.cut_piecesAfter (pre.toList ++ '[' :: n.toList ++ [']']) post.toList
    rw [Reference.piecesAfter_closed] at there
    rw [written_pieces, List.nil_append, Mention.written]
    dsimp only
    rw [← List.append_assoc]
    exact there
  have whole : Reference.Cut [] (pieces pre ++ .mention ⟨.bracket, n.toList⟩ :: pieces post) :=
    (cut_pieces pre).append back rfl
  rw [Reference.cut_iff.mp whole]
  have written :
      (pieces pre ++ .mention ⟨.bracket, n.toList⟩ :: pieces post).flatMap Piece.written =
        (pre ++ "[" ++ n ++ "]" ++ post).toList := by
    rw [List.flatMap_append, List.flatMap_cons, written_pieces, written_pieces]
    simp [Piece.written, Mention.written]
  rw [written]
  rfl

theorem references_around :
    references (pre ++ "[" ++ n ++ "]" ++ post) =
      references pre ++
        ⟨n, .bracket, Text.byteLength pre.toList,
            Text.byteLength (pre ++ "[" ++ n ++ "]").toList⟩ ::
          (references post).map
            (Reference.shift (Text.byteLength (pre ++ "[" ++ n ++ "]").toList)) := by
  have stop : (pre ++ "[" ++ n ++ "]").toList =
      pre.toList ++ (Mention.written ⟨.bracket, n.toList⟩) := by
    simp [Mention.written]
  have front := Reference.ofPieces_append [] (pieces pre)
    (.mention ⟨.bracket, n.toList⟩ :: pieces post)
  rw [List.nil_append, written_pieces, Reference.ofPieces_mention] at front
  rw [references, pieces_around pre post nonempty free, stop]
  refine front.trans ?_
  rw [references, references, ← Reference.ofPieces_add, Nat.add_zero, Mention.referenceAfter,
    Mention.text, String.ofList_toList]
  rfl

end

end Workbook
