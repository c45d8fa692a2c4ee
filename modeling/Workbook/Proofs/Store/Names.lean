import Workbook.Store
import Workbook.Text.Digits

/-!
A free name is always found.

A numbered name ends, in its normal form too, in a hyphen and the digits of the number
(`normalize_suffixed`), and is longer than the name without a number.  So names with different
numbers, or with none, have different normal forms.  Of more names than there are blocks one is free
(`exists_free`), and `uniqueName` never answers with a name that another block has
(`free_uniqueName`).
-/

namespace Workbook

namespace Text

/-! ## Characters that lower-casing and trimming leave alone -/

/-- Nothing before the capital letters has a lower-case image other than itself. -/
theorem lowerChar_of_lt {c : Char} (h : c.toNat < 0x41) : lowerChar c = [c] := by
  have hc : c ≠ 'İ' := by
    intro e
    subst e
    exact absurd h (by decide)
  have hcode : lowerCode caseRuns c.toNat = c.toNat := if_pos h
  rw [lowerChar, if_neg hc, hcode, Char.ofNat_toNat]

theorem lowerAt_of_lt {c : Char} (h : c.toNat < 0x41) (before : Bool) (rest : List Char) :
    lowerAt before c rest = [c] := by
  have hc : c ≠ 'Σ' := by
    intro e
    subst e
    exact absurd h (by decide)
  rw [lowerAt, if_neg hc, lowerChar_of_lt h]

theorem lowerFrom_of_lt {cs : List Char} (h : ∀ c ∈ cs, c.toNat < 0x41) (before : Bool) :
    lowerFrom before cs = cs := by
  induction cs generalizing before with
  | nil => rfl
  | cons c rest ih =>
    rw [lowerFrom, lowerAt_of_lt (h c (List.mem_cons_self ..)),
      ih fun d hd => h d (List.mem_cons_of_mem c hd)]
    rfl

theorem lowerFrom_append {ds : List Char} (h : ∀ c ∈ ds, c.toNat < 0x41) (before : Bool)
    (cs : List Char) : ∃ front, lowerFrom before (cs ++ ds) = front ++ ds := by
  induction cs generalizing before with
  | nil => exact ⟨[], lowerFrom_of_lt h before⟩
  | cons c rest ih =>
    obtain ⟨front, hf⟩ := ih (if isCaseIgnorable c then before else isCased c)
    refine ⟨lowerAt before c (rest ++ ds) ++ front, ?_⟩
    rw [List.cons_append, lowerFrom, hf, List.append_assoc]

theorem trimLeft_append {c : Char} (h : isBlank c = false) (cs ds : List Char) :
    trimLeft (cs ++ c :: ds) = trimLeft cs ++ c :: ds := by
  rw [trimLeft, trimLeft, List.dropWhile_append]
  split
  case isTrue none => rw [List.isEmpty_iff.mp none, List.dropWhile_cons, h]; rfl
  case isFalse => rfl

theorem trimRight_append {d : Char} (h : isBlank d = false) (cs : List Char) :
    trimRight (cs ++ [d]) = cs ++ [d] := by
  rw [trimRight, List.reverse_append, List.reverse_singleton, List.singleton_append,
    List.dropWhile_cons, h]
  simp

theorem trimRight_prefix (cs : List Char) : trimRight cs <+: cs := by
  rw [← List.reverse_suffix, trimRight, List.reverse_reverse]
  exact List.dropWhile_suffix _

/-! ## Lengths

Where the capital sigma ends a word it has another image than elsewhere, of the same length. -/

theorem length_lowerAt (before : Bool) (c : Char) (rest : List Char) :
    (lowerAt before c rest).length = (lowerChar c).length := by
  unfold lowerAt
  split
  case isTrue sigma =>
    have one : (lowerChar c).length = 1 := by
      rw [sigma, lowerChar, if_neg (by decide)]
      rfl
    rw [one]
    split <;> rfl
  case isFalse => rfl

/-- The number of characters that a text has in lower case. -/
def lowerLength (cs : List Char) : Nat := (cs.flatMap lowerChar).length

theorem lowerLength_append (cs ds : List Char) :
    lowerLength (cs ++ ds) = lowerLength cs + lowerLength ds := by
  rw [lowerLength, List.flatMap_append, List.length_append]
  rfl

theorem length_lowerFrom (before : Bool) (cs : List Char) :
    (lowerFrom before cs).length = lowerLength cs := by
  induction cs generalizing before with
  | nil => rfl
  | cons c rest ih =>
    rw [lowerFrom, List.length_append, length_lowerAt, ih, lowerLength, lowerLength,
      List.flatMap_cons, List.length_append]

end Text

namespace Name

/-! ## Numbered names -/

theorem toNat_lt_of_isDigit {c : Char} (h : c.isDigit = true) : c.toNat < 0x41 := by
  simp only [Char.isDigit, Bool.and_eq_true, decide_eq_true_eq] at h
  have := UInt32.le_iff_toNat_le.mp h.2
  simp only [Char.toNat]
  exact Nat.lt_of_le_of_lt this (by decide)

theorem isBlank_of_isDigit {c : Char} (h : c.isDigit = true) : Text.isBlank c = false := by
  simp only [Char.isDigit, Bool.and_eq_true, decide_eq_true_eq] at h
  have low : 0x30 ≤ c.toNat := UInt32.le_iff_toNat_le.mp h.1
  have high : c.toNat ≤ 0x39 := UInt32.le_iff_toNat_le.mp h.2
  simp only [Text.isBlank, Text.covers, Text.blankRanges]
  grind

theorem toList_suffixed (wanted : String) (k : Nat) :
    (suffixed wanted k).toList = wanted.toList ++ '-' :: Nat.toDigits 10 k := by
  simp [suffixed]

/-- Behind a number nothing is trimmed. -/
theorem trim_suffixed (wanted : String) (k : Nat) :
    Text.trim (suffixed wanted k).toList =
      Text.trimLeft wanted.toList ++ '-' :: Nat.toDigits 10 k := by
  obtain ⟨init, last, hd⟩ : ∃ init last, Nat.toDigits 10 k = init ++ [last] :=
    ⟨_, _, (List.dropLast_concat_getLast Nat.toDigits_ne_nil).symm⟩
  have hlast : Text.isBlank last = false :=
    isBlank_of_isDigit (Text.isDigit_of_mem_toDigits (n := k) last (by simp [hd]))
  have kept := Text.trimRight_append hlast (Text.trimLeft wanted.toList ++ '-' :: init)
  rw [Text.trim, toList_suffixed, Text.trimLeft_append (by decide), hd]
  simpa using kept

/-- The normal form of a numbered name ends in a hyphen and the digits of its number. -/
theorem normalize_suffixed (wanted : String) (k : Nat) :
    ∃ front, (normalize (suffixed wanted k)).toList = front ++ '-' :: Nat.toDigits 10 k := by
  have hlow : ∀ c ∈ '-' :: Nat.toDigits 10 k, c.toNat < 0x41 := by
    intro c hc
    rcases List.mem_cons.mp hc with rfl | hc
    · decide
    · exact toNat_lt_of_isDigit (Text.isDigit_of_mem_toDigits _ hc)
  obtain ⟨front, hfront⟩ := Text.lowerFrom_append hlow false (Text.trimLeft wanted.toList)
  refine ⟨front, ?_⟩
  rw [normalize, String.toList_ofList, trim_suffixed]
  exact hfront

/-- A number makes a name longer, in its normal form too. -/
theorem normalize_suffixed_ne (wanted : String) (k : Nat) :
    normalize (suffixed wanted k) ≠ normalize wanted := by
  intro e
  have lengths : Text.lowerLength (Text.trim (suffixed wanted k).toList) =
      Text.lowerLength (Text.trim wanted.toList) := by
    rw [← Text.length_lowerFrom false, ← Text.length_lowerFrom false]
    exact congrArg List.length (String.ofList_injective e)
  obtain ⟨blanks, rest⟩ := Text.trimRight_prefix (Text.trimLeft wanted.toList)
  have shorter := congrArg Text.lowerLength rest
  have hyphen : Text.lowerLength ('-' :: Nat.toDigits 10 k) =
      Text.lowerLength (Nat.toDigits 10 k) + 1 := rfl
  rw [trim_suffixed, Text.lowerLength_append, Text.trim] at lengths
  rw [Text.lowerLength_append] at shorter
  omega

theorem ne_hyphen_of_isDigit {c : Char} (h : c.isDigit = true) : (c != '-') = true := by
  rw [bne_iff_ne]
  intro e
  subst e
  exact absurd h (by decide)

theorem takeWhile_reverse_append_hyphen (front : List Char) {ds : List Char}
    (h : ∀ c ∈ ds, c.isDigit = true) :
    (front ++ '-' :: ds).reverse.takeWhile (· != '-') = ds.reverse := by
  have hrev : (front ++ '-' :: ds).reverse = ds.reverse ++ '-' :: front.reverse := by simp
  rw [hrev, List.takeWhile_append_of_pos]
  · simp
  · intro c hc
    exact ne_hyphen_of_isDigit (h c (List.mem_reverse.mp hc))

/-- Names with different numbers are different names. -/
theorem suffixed_injective {wanted : String} {j k : Nat}
    (h : normalize (suffixed wanted j) = normalize (suffixed wanted k)) : j = k := by
  obtain ⟨frontj, hj⟩ := normalize_suffixed wanted j
  obtain ⟨frontk, hk⟩ := normalize_suffixed wanted k
  have e : frontj ++ '-' :: Nat.toDigits 10 j = frontk ++ '-' :: Nat.toDigits 10 k := by
    rw [← hj, ← hk, h]
  have hd : (Nat.toDigits 10 j).reverse = (Nat.toDigits 10 k).reverse := by
    rw [← takeWhile_reverse_append_hyphen frontj Text.isDigit_of_mem_toDigits,
      ← takeWhile_reverse_append_hyphen frontk Text.isDigit_of_mem_toDigits, e]
  rw [← Nat.ofDigitChars_ten_toDigits (n := j), ← Nat.ofDigitChars_ten_toDigits (n := k),
    List.reverse_inj.mp hd]

end Name

namespace Store

/-! ## Free names -/

/-- Nobody but the excepted block has the name. -/
def Free (s : Store) (except? : Option BlockId) (name : String) : Prop :=
  ∀ b ∈ s.blocks, some b.id ≠ except? → Name.normalize b.name ≠ Name.normalize name

instance (s : Store) (except? : Option BlockId) (name : String) : Decidable (s.Free except? name) :=
  inferInstanceAs (Decidable (∀ b ∈ s.blocks, some b.id ≠ except? → _ ≠ _))

variable {s : Store} {wanted : String} {except? : Option BlockId}

theorem not_free_iff {name : String} : ¬ s.Free except? name ↔
    ∃ b ∈ s.blocks, some b.id ≠ except? ∧ Name.normalize b.name = Name.normalize name := by
  constructor
  · intro taken
    refine Decidable.byContradiction fun none => taken fun b hb hne e => ?_
    exact none ⟨b, hb, hne, e⟩
  · rintro ⟨b, hb, hne, e⟩ free
    exact free b hb hne e

theorem isTaken_iff {name : String} : s.isTaken except? name = true ↔ ¬ s.Free except? name := by
  rw [not_free_iff]
  simp [isTaken]

theorem isTaken_eq_false_iff {name : String} :
    s.isTaken except? name = false ↔ s.Free except? name := by
  rw [← Bool.not_eq_true, isTaken_iff]
  exact Decidable.not_not

/-- Of more names than there are blocks, apart in their normal forms, one is free. -/
theorem exists_free (except? : Option BlockId) {names : List String}
    (apart : (names.map Name.normalize).Nodup) (more : s.size < names.length) :
    ∃ name ∈ names, s.Free except? name := by
  refine Decidable.byContradiction fun none => ?_
  have taken : names.map Name.normalize ⊆ s.blocks.map fun b => Name.normalize b.name := by
    intro key hkey
    obtain ⟨name, hname, rfl⟩ := List.mem_map.mp hkey
    obtain ⟨b, hb, -, e⟩ := not_free_iff.mp fun free => none ⟨name, hname, free⟩
    exact List.mem_map.mpr ⟨b, hb, e⟩
  have few := apart.length_le_of_subset taken
  rw [List.length_map, List.length_map] at few
  exact absurd more (Nat.not_lt.mpr few)

/-- If the wanted name is taken, one of as many numbered names as there are blocks is free. -/
theorem exists_free_suffixed (taken : ¬ s.Free except? wanted) :
    ∃ k ∈ List.range' 2 s.size, s.Free except? (Name.suffixed wanted k) := by
  have numbers : ((List.range' 2 s.size).map fun k =>
      Name.normalize (Name.suffixed wanted k)).Nodup := by
    rw [List.nodup_iff_pairwise_ne, List.pairwise_map]
    exact List.Pairwise.imp (fun {j k} hjk e => hjk (Name.suffixed_injective e)) List.nodup_range'
  have apart : ((wanted :: (List.range' 2 s.size).map (Name.suffixed wanted)).map
      Name.normalize).Nodup := by
    rw [List.map_cons, List.map_map]
    refine List.nodup_cons.mpr ⟨fun same => ?_, numbers⟩
    obtain ⟨k, -, e⟩ := List.mem_map.mp same
    exact Name.normalize_suffixed_ne wanted k e
  obtain ⟨name, hname, free⟩ := exists_free (s := s) except? apart (by simp)
  rcases List.mem_cons.mp hname with rfl | hname
  · exact absurd free taken
  · obtain ⟨k, hk, rfl⟩ := List.mem_map.mp hname
    exact ⟨k, hk, free⟩

theorem uniqueName_eq_self (free : s.Free except? wanted) :
    s.uniqueName wanted except? = wanted :=
  if_neg fun taken => isTaken_iff.mp taken free

/-- If the wanted name is taken, the least number from two on whose name is free is put after it. -/
theorem uniqueName_eq_suffixed (taken : ¬ s.Free except? wanted) :
    ∃ k, 2 ≤ k ∧ k ≤ s.size + 1 ∧ s.uniqueName wanted except? = Name.suffixed wanted k ∧
      s.Free except? (Name.suffixed wanted k) ∧
      ∀ j, 2 ≤ j → j < k → ¬ s.Free except? (Name.suffixed wanted j) := by
  obtain ⟨m, hm, free⟩ := exists_free_suffixed taken
  obtain ⟨least, bound⟩ := List.mem_range'_1.mp hm
  have found : ((List.range' 2 (s.size + 1)).find? fun k =>
      !s.isTaken except? (Name.suffixed wanted k)).isSome = true := by
    rw [List.find?_isSome]
    exact ⟨m, List.mem_range'_1.mpr ⟨least, by omega⟩, by rw [isTaken_eq_false_iff.mpr free]; rfl⟩
  obtain ⟨k, hk⟩ := Option.isSome_iff_exists.mp found
  obtain ⟨hfree, hmem, passed⟩ := List.find?_range'_eq_some.mp hk
  have before : ∀ j, 2 ≤ j → j < k → ¬ s.Free except? (Name.suffixed wanted j) := by
    intro j h₁ h₂
    exact isTaken_iff.mp (by simpa using passed j h₁ h₂)
  have first : k ≤ m := Nat.le_of_not_lt fun lt => before m least lt free
  refine ⟨k, (List.mem_range'_1.mp hmem).1, by omega, ?_,
    isTaken_eq_false_iff.mp (by simpa using hfree), before⟩
  rw [uniqueName, if_pos (isTaken_iff.mpr taken), hk]
  rfl

/-- Nobody but the excepted block has the name that is answered. -/
theorem free_uniqueName (s : Store) (wanted : String) (except? : Option BlockId) :
    s.Free except? (s.uniqueName wanted except?) := by
  by_cases free : s.Free except? wanted
  · rwa [uniqueName_eq_self free]
  · obtain ⟨k, -, -, e, numbered, -⟩ := uniqueName_eq_suffixed free
    rwa [e]

/-- A block may take the name that is answered for it. -/
theorem uniqueName_ne {b : Block} (hb : b ∈ s.blocks) (hne : some b.id ≠ except?) :
    Name.normalize b.name ≠ Name.normalize (s.uniqueName wanted except?) :=
  free_uniqueName s wanted except? b hb hne

/-- A free name is answered as it is. -/
theorem uniqueName_of_free (except? : Option BlockId)
    (free : ∀ b ∈ s.blocks, Name.normalize b.name ≠ Name.normalize wanted) :
    s.uniqueName wanted except? = wanted :=
  uniqueName_eq_self fun b hb _ => free b hb

end Store
end Workbook
