import Mathlib.Data.List.TakeWhile
import Workbook.Json.Reader
import Workbook.Text.Digits

/-!
The tokens of what is written.

A text that was written is cut off at the quotation mark that ends it and read as the same
characters, whatever they are (`tokens?_writtenText`).  An integer is read as itself, and so are
null and the truth values, up to a character that cannot belong to them (`tokens?_bare`).
-/

namespace Workbook
namespace Json

/-! ## Characters of texts -/

/-- The character stands for itself in a text. -/
def IsLiteral (c : Char) : Prop := c ≠ '"' ∧ c ≠ '\\' ∧ 0x20 ≤ c.toNat

theorem isLiteral_digitChar {n : Nat} (h : n < 16) : IsLiteral (Nat.digitChar n) := by
  have all : ∀ n : Fin 16, Nat.digitChar n ≠ '"' ∧ Nat.digitChar n ≠ '\\' ∧
      0x20 ≤ (Nat.digitChar n).toNat := by decide
  exact all ⟨n, h⟩

theorem hexValue?_digitChar {n : Nat} (h : n < 16) : hexValue? (Nat.digitChar n) = some n := by
  have all : ∀ n : Fin 16, hexValue? (Nat.digitChar n) = some n.val := by decide
  exact all ⟨n, h⟩

/-- A character is written as a backslash and a letter, or as a code unit, or as itself. -/
theorem escapeChar_cases (c : Char) :
    (∃ e, shortEscape? c = some e ∧ escapeChar c = ['\\', e]) ∨
    (c.toNat < 0x20 ∧ escapeChar c =
      ['\\', 'u', '0', '0', Nat.digitChar (c.toNat / 16), Nat.digitChar (c.toNat % 16)]) ∨
    (IsLiteral c ∧ escapeChar c = [c]) := by
  unfold escapeChar
  cases h : shortEscape? c with
  | some e => exact .inl ⟨e, rfl, rfl⟩
  | none =>
    dsimp only
    split
    case isTrue low => exact .inr (.inl ⟨low, rfl⟩)
    case isFalse high =>
      refine .inr (.inr ⟨⟨?_, ?_, Nat.le_of_not_lt high⟩, rfl⟩)
      · rintro rfl
        cases h
      · rintro rfl
        cases h

theorem unescape?_of_shortEscape? {c e : Char} (h : shortEscape? c = some e) :
    unescape? e = some c ∧ e ≠ 'u' := by
  unfold shortEscape? at h
  repeat' split at h
  all_goals cases h
  all_goals subst_vars; decide

theorem glyphs?_literal {c : Char} (h : c ≠ '\\') (rest : List Char) :
    glyphs? (c :: rest) = (glyphs? rest).map (.char c :: ·) := by
  rw [glyphs?]
  · exact if_neg h
  · exact fun _ _ _ _ _ e => absurd e h
  · exact fun _ _ e => absurd e h

theorem glyphs?_short {c e : Char} (h : shortEscape? c = some e) (rest : List Char) :
    glyphs? ('\\' :: e :: rest) = (glyphs? rest).map (.char c :: ·) := by
  obtain ⟨meant, hne⟩ := unescape?_of_shortEscape? h
  rw [glyphs?]
  · rw [meant]
  · exact fun _ _ _ _ _ e => absurd e hne

theorem chars?_unit {code : Nat} (h : code < 0x20) (rest : List Glyph) :
    chars? (.unit code :: rest) = (chars? rest).map (Char.ofNat code :: ·) := by
  have lead : isLead code = false := by
    rw [isLead, decide_eq_false (by omega)]
    rfl
  have trail : isTrail code = false := by
    rw [isTrail, decide_eq_false (by omega)]
    rfl
  match rest with
  | [] => simp [chars?, lead, trail]
  | .char c :: rest => simp [chars?, lead, trail]
  | .unit next :: rest => rw [chars?]; simp [lead, trail]

/-- What a character is written as is read as the character. -/
theorem exists_glyph (c : Char) : ∃ glyph,
    (∀ rest, glyphs? (escapeChar c ++ rest) = (glyphs? rest).map (glyph :: ·)) ∧
      ∀ rest, chars? (glyph :: rest) = (chars? rest).map (c :: ·) := by
  rcases escapeChar_cases c with ⟨e, short, written⟩ | ⟨low, written⟩ | ⟨literal, written⟩
  · refine ⟨.char c, fun rest => ?_, fun _ => rfl⟩
    rw [written]
    exact glyphs?_short short rest
  · refine ⟨.unit c.toNat, fun rest => ?_, fun rest => ?_⟩
    · have code : codeUnit? '0' '0' (Nat.digitChar (c.toNat / 16)) (Nat.digitChar (c.toNat % 16)) =
          some c.toNat := by
        have high : c.toNat / 16 < 16 := by omega
        have low : c.toNat % 16 < 16 := Nat.mod_lt _ (by decide)
        have zero : hexValue? '0' = some 0 := by decide
        rw [codeUnit?, zero, hexValue?_digitChar high, hexValue?_digitChar low]
        show some _ = some _
        congr 1
        omega
      rw [written]
      show glyphs? ('\\' :: 'u' :: '0' :: '0' :: _ :: _ :: rest) = _
      rw [glyphs?, code]
    · rw [chars?_unit low, Char.ofNat_toNat]
  · refine ⟨.char c, fun rest => ?_, fun _ => rfl⟩
    rw [written]
    exact glyphs?_literal literal.2.1 rest

/-- What a text is written as is read as the text. -/
theorem quoted?_escaped (cs : List Char) :
    quoted? (cs.flatMap escapeChar) = some (.scalar (.text (String.ofList cs))) := by
  have parts : ∃ glyphs,
      glyphs? (cs.flatMap escapeChar) = some glyphs ∧ chars? glyphs = some cs := by
    induction cs with
    | nil => exact ⟨[], rfl, rfl⟩
    | cons c cs ih =>
      obtain ⟨glyphs, read, meant⟩ := ih
      obtain ⟨glyph, read', meant'⟩ := exists_glyph c
      refine ⟨glyph :: glyphs, ?_, ?_⟩
      · rw [List.flatMap_cons, read', read, Option.map_some]
      · rw [meant', meant, Option.map_some]
  obtain ⟨glyphs, read, meant⟩ := parts
  rw [quoted?, read, Option.map_some, meant]

/-! ## Texts as tokens -/

theorem tokens?_literal {c : Char} (h : IsLiteral c) (held rest : List Char) :
    tokens? (.body held) (c :: rest) = tokens? (.body (c :: held)) rest := by
  rw [tokens?, if_neg h.1, if_neg h.2.1, if_neg (Nat.not_lt.mpr h.2.2)]

theorem tokens?_escape (e : Char) (held rest : List Char) :
    tokens? (.body held) ('\\' :: e :: rest) = tokens? (.body (e :: '\\' :: held)) rest := by
  rw [tokens?, if_neg (by decide), if_pos rfl, tokens?]

/-- No character that is written ends the text. -/
theorem tokens?_escapeChar (c : Char) (held rest : List Char) :
    tokens? (.body held) (escapeChar c ++ rest) =
      tokens? (.body ((escapeChar c).reverse ++ held)) rest := by
  rcases escapeChar_cases c with ⟨e, -, written⟩ | ⟨low, written⟩ | ⟨literal, written⟩
  · rw [written]
    exact tokens?_escape e held rest
  · have zero : IsLiteral '0' := isLiteral_digitChar (n := 0) (by decide)
    have high : IsLiteral (Nat.digitChar (c.toNat / 16)) := isLiteral_digitChar (by omega)
    have low : IsLiteral (Nat.digitChar (c.toNat % 16)) :=
      isLiteral_digitChar (Nat.mod_lt _ (by decide))
    rw [written]
    show tokens? (.body held) ('\\' :: 'u' :: '0' :: '0' :: _ :: _ :: rest) = _
    rw [tokens?_escape, tokens?_literal zero, tokens?_literal zero, tokens?_literal high,
      tokens?_literal low]
    rfl
  · rw [written]
    exact tokens?_literal literal held rest

theorem tokens?_escaped (cs held rest : List Char) :
    tokens? (.body held) (cs.flatMap escapeChar ++ '"' :: rest) =
      follow (quoted? (held.reverse ++ cs.flatMap escapeChar)) (tokens? .between rest) := by
  induction cs generalizing held with
  | nil => rw [List.flatMap_nil, List.nil_append, tokens?, if_pos rfl, List.append_nil]
  | cons c cs ih =>
    rw [List.flatMap_cons, List.append_assoc, tokens?_escapeChar, ih, List.reverse_append,
      List.reverse_reverse, List.append_assoc]

theorem tokens?_writtenText (s : String) (rest : List Char) :
    tokens? .between (writtenText s ++ rest) =
      follow (some (.scalar (.text s))) (tokens? .between rest) := by
  rw [writtenText, List.append_assoc, List.cons_append, List.singleton_append, tokens?,
    if_neg (by decide), if_pos rfl, tokens?_escaped, List.reverse_nil, List.nil_append,
    quoted?_escaped, String.ofList_toList]

/-! ## Marks and what stands outside texts -/

/-- The character may stand in a token other than a mark or a text. -/
structure IsBare (c : Char) : Prop where
  space : isSpace c = false
  quote : c ≠ '"'
  mark : mark? c = none

instance : DecidablePred IsBare := fun c =>
  decidable_of_iff (isSpace c = false ∧ c ≠ '"' ∧ mark? c = none)
    ⟨fun h => ⟨h.1, h.2.1, h.2.2⟩, fun h => ⟨h.space, h.quote, h.mark⟩⟩

/-- Nothing follows, or a mark. -/
def Ends (rest : List Char) : Prop := ∀ c ∈ rest.head?, ∃ m, mark? c = some m

theorem ends_nil : Ends [] := nofun

theorem ends_cons {c : Char} {m : Mark} (h : mark? c = some m) (rest : List Char) :
    Ends (c :: rest) := by
  intro d hd
  cases hd
  exact ⟨m, h⟩

theorem of_mark? {c : Char} {m : Mark} (h : mark? c = some m) :
    isSpace c = false ∧ c ≠ '"' ∧ c.isAlphanum = false := by
  unfold mark? at h
  repeat' split at h
  all_goals first | (subst_vars; decide) | cases h

theorem isBare_of_isAlphanum {c : Char} (h : c.isAlphanum = true) : IsBare c where
  space := by
    simp only [isSpace, Bool.or_eq_false_iff, beq_eq_false_iff_ne, ne_eq]
    refine ⟨⟨⟨?_, ?_⟩, ?_⟩, ?_⟩ <;> exact fun e => absurd (e ▸ h) (by decide)
  quote e := absurd (e ▸ h) (by decide)
  mark := by
    rw [Option.eq_none_iff_forall_ne_some]
    intro m e
    rw [(of_mark? e).2.2] at h
    cases h

theorem isBare_of_all {cs : List Char} (h : cs.all Char.isAlphanum = true) : ∀ c ∈ cs, IsBare c :=
  fun c hc => isBare_of_isAlphanum (List.all_eq_true.mp h c hc)

theorem tokens?_mark {c : Char} {m : Mark} (h : mark? c = some m) (rest : List Char) :
    tokens? .between (c :: rest) = follow (some (.mark m)) (tokens? .between rest) := by
  rw [tokens?, (of_mark? h).1, if_neg Bool.false_ne_true, if_neg (of_mark? h).2.1, h]

theorem tokens?_held {cs : List Char} (h : ∀ c ∈ cs, IsBare c) (held rest : List Char) :
    tokens? (.bare held) (cs ++ rest) = tokens? (.bare (cs.reverse ++ held)) rest := by
  induction cs generalizing held with
  | nil => rfl
  | cons c cs ih =>
    obtain ⟨bare, others⟩ := List.forall_mem_cons.mp h
    rw [List.cons_append, tokens?, bare.space, if_neg Bool.false_ne_true, if_neg bare.quote,
      bare.mark]
    dsimp only
    rw [ih others, List.reverse_cons, List.append_assoc]
    rfl

theorem tokens?_of_ends {held rest : List Char} (h : Ends rest) :
    tokens? (.bare held) rest = follow (bare? held.reverse) (tokens? .between rest) := by
  match rest with
  | [] => rfl
  | c :: rest =>
    obtain ⟨m, hm⟩ := h c rfl
    rw [tokens?_mark hm, tokens?, (of_mark? hm).1, if_neg Bool.false_ne_true,
      if_neg (of_mark? hm).2.1, hm]

/-- A run of characters outside texts is a token of its own when nothing or a mark follows. -/
theorem tokens?_bare {cs rest : List Char} {t : Token} (hne : cs ≠ []) (h : ∀ c ∈ cs, IsBare c)
    (ht : bare? cs = some t) (hr : Ends rest) :
    tokens? .between (cs ++ rest) = follow (some t) (tokens? .between rest) := by
  match cs with
  | [] => exact absurd rfl hne
  | c :: cs =>
    obtain ⟨bare, others⟩ := List.forall_mem_cons.mp h
    rw [List.cons_append, tokens?, bare.space, if_neg Bool.false_ne_true, if_neg bare.quote,
      bare.mark]
    dsimp only
    rw [tokens?_held others, tokens?_of_ends hr, List.reverse_append, List.reverse_reverse,
      List.reverse_singleton, List.singleton_append, ht]

/-! ## Integers -/

theorem number?_of_digits {ds : List Char} (whole : isWhole ds = true)
    (digits : ∀ c ∈ ds, c.isDigit = true) : number? ds = some (.int (natOfDigits ds)) := by
  have unsigned : ds.head? ≠ some '-' := fun e =>
    absurd (digits _ (List.mem_of_head? e)) (by decide)
  have zero : ds ≠ ['-', '0'] := fun e => unsigned (e ▸ rfl)
  have all : ds.takeWhile Char.isDigit = ds := List.takeWhile_eq_self_iff.mpr digits
  have none : ds.dropWhile Char.isDigit = [] := List.dropWhile_eq_nil_iff.mpr digits
  simp only [number?, unsigned, if_false, all, none, whole, zero, ne_eq, not_true_eq_false,
    or_false]
  rfl

theorem number?_neg_of_digits {ds : List Char} (whole : isWhole ds = true)
    (digits : ∀ c ∈ ds, c.isDigit = true) (h : ds ≠ ['0']) :
    number? ('-' :: ds) = some (.int (-(natOfDigits ds : Int))) := by
  have all : ds.takeWhile Char.isDigit = ds := List.takeWhile_eq_self_iff.mpr digits
  have none : ds.dropWhile Char.isDigit = [] := List.dropWhile_eq_nil_iff.mpr digits
  have zero : '-' :: ds ≠ ['-', '0'] := fun e => h (List.cons.inj e).2
  simp only [number?, List.head?_cons, if_true, List.drop_one, List.tail_cons, all, none, whole,
    zero, ne_eq, not_true_eq_false, or_false]
  rfl

theorem isWhole_toDigits (n : Nat) : isWhole (Nat.toDigits 10 n) = true := by
  rcases Nat.eq_zero_or_pos n with rfl | h
  · rfl
  · obtain ⟨d, ds, e, hd⟩ := Text.head_toDigits h
    have digits : (d :: ds).all Char.isDigit = true :=
      List.all_eq_true.mpr (e ▸ Text.isDigit_of_mem_toDigits)
    rw [e, isWhole, digits, Bool.and_true, bne_iff_ne]
    · exact hd
    · exact fun e => absurd e hd

theorem natOfDigits_toDigits (n : Nat) : natOfDigits (Nat.toDigits 10 n) = n :=
  Nat.ofDigitChars_ten_toDigits

theorem toList_toString_ofNat (m : Nat) : (toString (Int.ofNat m)).toList = Nat.toDigits 10 m :=
  Nat.toList_repr

theorem toList_toString_negSucc (m : Nat) :
    (toString (Int.negSucc m)).toList = '-' :: Nat.toDigits 10 (m + 1) := by
  show ("-" ++ (m + 1).repr).toList = _
  rw [String.toList_append, Nat.toList_repr]
  rfl

/-- An integer is read as itself. -/
theorem number?_toString (n : Int) : number? (toString n).toList = some (.int n) := by
  match n with
  | .ofNat m =>
    rw [toList_toString_ofNat, number?_of_digits (isWhole_toDigits m) Text.isDigit_of_mem_toDigits,
      natOfDigits_toDigits]
    rfl
  | .negSucc m =>
    have positive : Nat.toDigits 10 (m + 1) ≠ ['0'] := by
      obtain ⟨d, ds, e, hd⟩ := Text.head_toDigits m.succ_pos
      rw [e]
      exact fun e => hd (List.cons.inj e).1
    rw [toList_toString_negSucc, number?_neg_of_digits (isWhole_toDigits _)
      Text.isDigit_of_mem_toDigits positive, natOfDigits_toDigits]
    rfl

theorem bare?_of_number? {cs : List Char} {j : Json} (h : number? cs = some j) :
    bare? cs = some (.scalar j) := by
  unfold bare?
  repeat' split
  case isTrue e | isTrue e | isTrue e =>
    subst e
    cases h
  rw [h]
  rfl

theorem isBare_of_mem_toString {n : Int} : ∀ c ∈ (toString n).toList, IsBare c := by
  have digits : ∀ {m : Nat}, ∀ c ∈ Nat.toDigits 10 m, IsBare c := fun c hc =>
    isBare_of_isAlphanum (by rw [Char.isAlphanum, Text.isDigit_of_mem_toDigits c hc, Bool.or_true])
  match n with
  | .ofNat m =>
    rw [toList_toString_ofNat]
    exact digits
  | .negSucc m =>
    rw [toList_toString_negSucc]
    exact List.forall_mem_cons.mpr ⟨by decide, digits⟩

theorem tokens?_int (n : Int) {rest : List Char} (hr : Ends rest) :
    tokens? .between ((toString n).toList ++ rest) =
      follow (some (.scalar (.int n))) (tokens? .between rest) := by
  have read := number?_toString n
  refine tokens?_bare ?_ isBare_of_mem_toString (bare?_of_number? read) hr
  intro e
  rw [e] at read
  cases read

end Json
end Workbook
