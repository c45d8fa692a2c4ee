import Workbook.Name
import Workbook.Text.Utf8
import Workbook.Text.WordChar

/-!
References in a text to other blocks.

There are two forms.  A number sign that does not follow a word character is followed by a word, in
which hyphens may stand between word characters.  Brackets enclose any text without brackets.  There
is no way to write either form without referring.

`pieces` cuts a text into mentions and single characters; everything else is read off the pieces.
Joined again they are the text (`written_pieces`).
-/

namespace Workbook

/-- How a reference is marked. -/
inductive Marker where
  | hash
  | bracket
deriving DecidableEq, Repr

/-- A name in a text, with its marker. -/
structure Mention where
  marker : Marker
  name : List Char
deriving DecidableEq, Repr

namespace Mention

def written (m : Mention) : List Char :=
  match m.marker with
  | .hash => '#' :: m.name
  | .bracket => '[' :: m.name ++ [']']

def text (m : Mention) : String := String.ofList m.name

end Mention

inductive Piece where
  | plain (c : Char)
  | mention (m : Mention)
deriving DecidableEq, Repr

namespace Piece

def written : Piece → List Char
  | .plain c => [c]
  | .mention m => m.written

def mention? : Piece → Option Mention
  | .plain _ => none
  | .mention m => some m

end Piece

namespace Reference

def isNameChar (c : Char) : Bool := Text.isWordChar c || c == '-'

/-- The longest start of a text that is a run of word characters and hyphens and ends in a word
character. -/
def hashName (text : List Char) : List Char :=
  ((text.takeWhile isNameChar).reverse.dropWhile (· == '-')).reverse

/-- The mention that starts with the character `c`, which `rest` follows.  `afterWord` says whether
a word character precedes it. -/
def mentionAt? (afterWord : Bool) (c : Char) (rest : List Char) : Option Mention :=
  if c = '#' then
    match rest with
    | [] => none
    | d :: _ =>
      if !afterWord && Text.isWordChar d then some ⟨.hash, hashName rest⟩ else none
  else if c = '[' then
    let name := rest.takeWhile fun d => d != '[' && d != ']'
    if !name.isEmpty && (rest.drop name.length).head? == some ']' then some ⟨.bracket, name⟩
    else none
  else none

/-- The pieces of a text, when its first `inside` characters belong to a mention already seen. -/
def piecesFrom (inside : Nat) (afterWord : Bool) : List Char → List Piece
  | [] => []
  | c :: rest =>
    match inside with
    | k + 1 => piecesFrom k (Text.isWordChar c) rest
    | 0 =>
      match mentionAt? afterWord c rest with
      | some m => .mention m :: piecesFrom (m.written.length - 1) (Text.isWordChar c) rest
      | none => .plain c :: piecesFrom 0 (Text.isWordChar c) rest

theorem hashName_append (text : List Char) : ∃ after, hashName text ++ after = text := by
  obtain ⟨dashes, h⟩ := List.dropWhile_suffix (· == '-') (l := (text.takeWhile isNameChar).reverse)
  refine ⟨dashes.reverse ++ text.dropWhile isNameChar, ?_⟩
  rw [← List.append_assoc, hashName, ← List.reverse_append, h, List.reverse_reverse,
    List.takeWhile_append_dropWhile]

/-- A mention stands written at the place where it is found. -/
theorem written_append_of_mentionAt? {afterWord : Bool} {c : Char} {rest : List Char} {m : Mention}
    (h : mentionAt? afterWord c rest = some m) : ∃ after, m.written ++ after = c :: rest := by
  unfold mentionAt? at h
  split at h
  case isTrue hc =>
    cases rest with
    | nil => cases h
    | cons d rest =>
      obtain ⟨after, ha⟩ := hashName_append (d :: rest)
      simp only at h
      split at h
      · cases h
        exact ⟨after, by rw [hc, Mention.written, List.cons_append, ha]⟩
      · cases h
  case isFalse =>
    split at h
    case isTrue hc =>
      simp only at h
      split at h
      case isTrue closed =>
        cases h
        obtain ⟨after, ha⟩ :=
          List.head?_eq_some_iff.mp (beq_iff_eq.mp (Bool.and_eq_true_iff.mp closed).2)
        have hrest :=
          List.takeWhile_append_dropWhile (p := fun d => d != '[' && d != ']') (l := rest)
        have hdrop :=
          congrArg (List.drop (rest.takeWhile fun d => d != '[' && d != ']').length) hrest
        rw [List.drop_left, ha] at hdrop
        exact ⟨after, by rw [hc, Mention.written]; simp [← hdrop, hrest]⟩
      case isFalse => cases h
    case isFalse => cases h

theorem length_written_pos (m : Mention) : 0 < m.written.length := by
  unfold Mention.written
  split <;> simp

theorem flatMap_written_piecesFrom (inside : Nat) (afterWord : Bool) (text : List Char) :
    (piecesFrom inside afterWord text).flatMap Piece.written = text.drop inside := by
  induction text generalizing inside afterWord with
  | nil => simp [piecesFrom]
  | cons c rest ih =>
    cases inside with
    | succ k => simp [piecesFrom, ih]
    | zero =>
      cases h : mentionAt? afterWord c rest with
      | none => simp [piecesFrom, h, ih, Piece.written]
      | some m =>
        obtain ⟨after, ha⟩ := written_append_of_mentionAt? h
        have hafter : after = rest.drop (m.written.length - 1) := by
          have hdrop := congrArg (List.drop m.written.length) ha
          obtain ⟨k, hk⟩ := Nat.exists_eq_add_of_lt (length_written_pos m)
          rw [List.drop_left] at hdrop
          rw [hdrop, hk]
          simp
        simp only [piecesFrom, h, List.flatMap_cons, ih, Piece.written, List.drop_zero]
        rw [← ha, ← hafter]

end Reference

/-- The mentions of a text and the characters around them, in order. -/
def pieces (text : String) : List Piece := Reference.piecesFrom 0 false text.toList

/-- Joined again, the pieces are the text. -/
theorem written_pieces (text : String) : (pieces text).flatMap Piece.written = text.toList :=
  Reference.flatMap_written_piecesFrom 0 false text.toList

/-- One occurrence of a reference.  It covers the bytes of the text from `start` up to `stop`. -/
structure Reference where
  name : String
  marker : Marker
  start : Nat
  stop : Nat
deriving DecidableEq, Repr

namespace Reference

/-- The references among pieces that start at byte `offset`. -/
def ofPieces (offset : Nat) : List Piece → List Reference
  | [] => []
  | p :: rest =>
    let stop := offset + Text.byteLength p.written
    match p with
    | .plain _ => ofPieces stop rest
    | .mention m => ⟨m.text, m.marker, offset, stop⟩ :: ofPieces stop rest

/-- The names, without those that an earlier one agrees with.  `seen` holds normal forms. -/
def distinctFrom (seen : List String) : List String → List String
  | [] => []
  | name :: rest =>
    let key := Name.normalize name
    if seen.contains key then distinctFrom seen rest
    else name :: distinctFrom (key :: seen) rest

end Reference

/-- All references of a text, in order. -/
def references (text : String) : List Reference := Reference.ofPieces 0 (pieces text)

/-- The names that a text mentions, in order and with repetitions. -/
def referencedNames (text : String) : List String :=
  (pieces text).filterMap fun p => p.mention?.map Mention.text

/-- The names that a text mentions, each in the spelling that comes first. -/
def distinctNames (text : String) : List String := Reference.distinctFrom [] (referencedNames text)

theorem Reference.exists_mem_distinctFrom {seen names : List String} {key : String}
    (h : key ∉ seen) :
    (∃ name ∈ Reference.distinctFrom seen names, Name.normalize name = key) ↔
      ∃ name ∈ names, Name.normalize name = key := by
  induction names generalizing seen with
  | nil => simp [Reference.distinctFrom]
  | cons name rest ih =>
    unfold Reference.distinctFrom
    simp only
    split
    case isTrue hs =>
      have hne : Name.normalize name ≠ key := fun e => h (e ▸ List.contains_iff_mem.mp hs)
      simp [ih h, hne]
    case isFalse =>
      by_cases e : Name.normalize name = key
      · simp [e]
      · have : key ∉ Name.normalize name :: seen := by simp [h, Ne.symm e]
        simp [ih this, e]

/-- No name is lost, up to spelling. -/
theorem exists_mem_distinctNames {text key : String} :
    (∃ name ∈ distinctNames text, Name.normalize name = key) ↔
      ∃ name ∈ referencedNames text, Name.normalize name = key :=
  Reference.exists_mem_distinctFrom List.not_mem_nil

theorem Reference.mem_of_mem_distinctFrom {seen names : List String} {name : String}
    (h : name ∈ Reference.distinctFrom seen names) : name ∈ names := by
  induction names generalizing seen with
  | nil => exact h
  | cons first rest ih =>
    unfold Reference.distinctFrom at h
    simp only at h
    split at h
    · exact List.mem_cons_of_mem first (ih h)
    · rcases List.mem_cons.mp h with rfl | h
      · exact List.mem_cons_self ..
      · exact List.mem_cons_of_mem first (ih h)

theorem Reference.mem_distinctFrom_of_find? {seen names : List String} {key name : String}
    (h : key ∉ seen) (found : names.find? (fun n => Name.normalize n == key) = some name) :
    name ∈ Reference.distinctFrom seen names := by
  induction names generalizing seen with
  | nil => cases found
  | cons first rest ih =>
    unfold Reference.distinctFrom
    simp only
    by_cases e : Name.normalize first = key
    · rw [List.find?_cons, beq_iff_eq.mpr e] at found
      cases found
      rw [if_neg (by simpa [e] using h)]
      exact List.mem_cons_self ..
    · rw [List.find?_cons, beq_false_of_ne e] at found
      split
      · exact ih h found
      · refine List.mem_cons_of_mem first (ih ?_ found)
        simp [h, Ne.symm e]

/-- The spelling that comes first is the one that is kept. -/
theorem mem_distinctNames_of_find? {text key name : String}
    (found : (referencedNames text).find? (fun n => Name.normalize n == key) = some name) :
    name ∈ distinctNames text :=
  Reference.mem_distinctFrom_of_find? List.not_mem_nil found

/-- No spelling is made up. -/
theorem mem_referencedNames_of_mem_distinctNames {text name : String}
    (h : name ∈ distinctNames text) : name ∈ referencedNames text :=
  Reference.mem_of_mem_distinctFrom h

end Workbook
