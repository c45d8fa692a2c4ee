import Mathlib.Data.List.TakeWhile
import Workbook.Entries
import Workbook.Text.Digits
import Workbook.Toml.Document

/-!
Documents of one line for each key.

A row is a bare key, an equals sign and a value that is read up to the end of its line.  One line of
a document adds its row to the present table (`line_row`), so a document that is nothing but rows of
different keys is read as the table of them, in order (`parse?_rows`).  A number is such a value as
long as the format has room for it, so documents of numbers are read as the numbers
(`parse?_numbers`).
-/

namespace Workbook
namespace Toml

/-! ## First characters -/

/-- The first of the characters is of a class. -/
def Starts (p : Char → Bool) (cs : List Char) : Prop := ∃ c rest, cs = c :: rest ∧ p c = true

section Starts

variable {p : Char → Bool} {cs : List Char}

theorem starts_append (hne : cs ≠ []) (h : ∀ c ∈ cs, p c = true) (rest : List Char) :
    Starts p (cs ++ rest) := by
  obtain ⟨c, more, rfl⟩ := List.exists_cons_of_ne_nil hne
  exact ⟨c, more ++ rest, rfl, h c List.mem_cons_self⟩

theorem Starts.ne (h : Starts p cs) {c : Char} (hc : p c = false) {rest : List Char} :
    cs ≠ c :: rest := by
  obtain ⟨first, more, rfl, hfirst⟩ := h
  intro e
  rw [(List.cons.inj e).1, hc] at hfirst
  cases hfirst

theorem Starts.skipSpace_eq (h : Starts p cs) (space : p ' ' = false) (tab : p '\t' = false) :
    skipSpace cs = cs := by
  obtain ⟨first, more, rfl, hfirst⟩ := id h
  have other : isSpace first = false := by
    rw [isSpace, Bool.or_eq_false_iff, beq_eq_false_iff_ne, beq_eq_false_iff_ne]
    exact ⟨fun e => h.ne space (congrArg (· :: more) e), fun e => h.ne tab (congrArg (· :: more) e)⟩
  rw [skipSpace, List.dropWhile_cons_of_neg (other ▸ Bool.false_ne_true)]

end Starts

/-! ## Numbers -/

section Digits

variable {ds : List Char}

theorem ungroup_of_digits (hne : ds ≠ []) (h : ∀ c ∈ ds, c.isDigit = true) :
    ungroup Char.isDigit ds = some ds := by
  induction ds with
  | nil => exact absurd rfl hne
  | cons c rest ih =>
    obtain ⟨hc, others⟩ := List.forall_mem_cons.mp h
    cases rest with
    | nil => rw [ungroup, if_pos hc]
    | cons d more =>
      have next : Starts Char.isDigit (d :: more) := ⟨d, more, rfl, others d List.mem_cons_self⟩
      rw [ungroup, if_pos hc, ih nofun others, Option.map_some]
      · nofun
      · exact fun _ => next.ne (by decide)

theorem digitValue_of_isDigit {c : Char} (h : c.isDigit = true) :
    digitValue c = c.toNat - '0'.toNat := by
  rw [digitValue, if_pos h]
  rfl

theorem foldl_digits (h : ∀ c ∈ ds, c.isDigit = true) (n : Nat) :
    ds.foldl (fun n c => 10 * n + digitValue c) n = Nat.ofDigitChars 10 ds n := by
  induction ds generalizing n with
  | nil => rfl
  | cons c rest ih =>
    obtain ⟨hc, others⟩ := List.forall_mem_cons.mp h
    rw [List.foldl_cons, ih others, digitValue_of_isDigit hc]
    rfl

theorem natOf_toDigits (n : Nat) : natOf 10 (Nat.toDigits 10 n) = n :=
  (foldl_digits Text.isDigit_of_mem_toDigits 0).trans Nat.ofDigitChars_ten_toDigits

/-- Numbers are written without needless zeros. -/
theorem decimal?_toDigits (n : Nat) :
    decimal? (Nat.toDigits 10 n) = some (Nat.toDigits 10 n) := by
  rw [decimal?, ungroup_of_digits Nat.toDigits_ne_nil Text.isDigit_of_mem_toDigits]
  rcases Nat.eq_zero_or_pos n with rfl | h
  · rfl
  · obtain ⟨d, ds, e, hd⟩ := Text.head_toDigits h
    have positive : ∀ tail, some (d :: ds) ≠ some ('0' :: tail) := fun tail e =>
      hd (List.cons.inj (Option.some.inj e)).1
    rw [e]
    split
    · next e => exact absurd e (positive [])
    · next tail _ e => exact absurd e (positive tail)
    · rfl

/-- A run of digits has no sign in front and no mark of another base behind a zero. -/
theorem int?_of_digits (hne : ds ≠ []) (h : ∀ c ∈ ds, c.isDigit = true)
    (decimal : decimal? ds = some ds) (small : natOf 10 ds < intLimit) :
    int? ds = some (natOf 10 ds : Int) := by
  have first : Starts Char.isDigit ds := List.append_nil ds ▸ starts_append hne h []
  have second : ∀ {mark rest}, mark.isDigit = false → ds ≠ '0' :: mark :: rest := by
    rintro mark rest hm rfl
    rw [h mark (by simp)] at hm
    cases hm
  have sign : unsigned ds = (false, ds) := by
    rw [unsigned]
    · exact fun _ => first.ne (by decide)
    · exact fun _ => first.ne (by decide)
  rw [int?, sign]
  · simp only [decimal, small, if_true, if_false, Bool.false_eq_true]
  · exact fun _ => second (by decide)
  · exact fun _ => second (by decide)
  · exact fun _ => second (by decide)

theorem int?_toDigits {n : Nat} (h : n < intLimit) :
    int? (Nat.toDigits 10 n) = some (n : Int) := by
  have small : natOf 10 (Nat.toDigits 10 n) < intLimit := by rwa [natOf_toDigits]
  rw [int?_of_digits Nat.toDigits_ne_nil Text.isDigit_of_mem_toDigits (decimal?_toDigits n) small,
    natOf_toDigits]

theorem scalar?_of_int? {n : Int} (h : int? ds = some n) : scalar? ds = some (.int n) := by
  rw [scalar?, if_neg, if_neg, h]
  · rintro rfl
    cases h
  · rintro rfl
    cases h

theorem date?_of_digits (h : ∀ c ∈ ds, c.isDigit = true) : date? ds = none := by
  rw [date?]
  rintro y1 y2 y3 y4 m1 m2 d1 d2 rest rfl
  exact absurd (h '-' (by simp)) (by decide)

theorem isScalarChar_of_isDigit {c : Char} (h : c.isDigit = true) : isScalarChar c = true := by
  simp only [isScalarChar, Char.isAlphanum, h, Bool.or_true, Bool.true_or]

/-- Digits at the end of a line are a value of their own: no time can follow them. -/
theorem scalarRun?_of_digits (h : ∀ c ∈ ds, c.isDigit = true) (rest : List Char) :
    scalarRun? (ds ++ '\n' :: rest) = (scalar? ds).map (·, '\n' :: rest) := by
  have run : (ds ++ '\n' :: rest).takeWhile isScalarChar = ds := by
    rw [List.takeWhile_append_of_pos fun c hc => isScalarChar_of_isDigit (h c hc)]
    exact List.append_nil ds
  simp only [scalarRun?, run, date?_of_digits h, List.drop_left]

theorem value?_of_digits (hne : ds ≠ []) (h : ∀ c ∈ ds, c.isDigit = true) (depth : Nat)
    (rest : List Char) :
    value? depth (ds ++ '\n' :: rest) = (scalar? ds).map (·, '\n' :: rest) := by
  have first := starts_append hne h ('\n' :: rest)
  rw [value?, scalarRun?_of_digits h]
  · exact fun _ => first.ne (by decide)
  · exact fun _ => first.ne (by decide)
  · exact fun _ _ e _ => first.ne (by decide) e
  · exact fun _ _ e _ => first.ne (by decide) e

end Digits

/-! ## Rows -/

/-- The key needs no quotation marks. -/
structure IsBare (key : String) : Prop where
  nonempty : key.toList ≠ []
  chars : ∀ c ∈ key.toList, isKeyChar c = true

theorem IsBare.starts {key : String} (h : IsBare key) (rest : List Char) :
    Starts isKeyChar (key.toList ++ rest) :=
  starts_append h.nonempty h.chars rest

/-- A bare key, and a value as it is written behind the equals sign. -/
structure Row where
  key : String
  written : List Char
  value : Toml
  bare : IsBare key
  isRead : ∀ rest, value? depthLimit (skipSpace (written ++ '\n' :: rest)) =
    some (value, '\n' :: rest)

namespace Row

/-- The characters of the line, its end included. -/
def line (r : Row) : List Char := r.key.toList ++ ' ' :: '=' :: ' ' :: (r.written ++ ['\n'])

/-- The member that the line adds to a table. -/
def member (r : Row) : String × Node := (r.key, .value r.value)

theorem line_append (r : Row) (rest : List Char) :
    r.line ++ rest = r.key.toList ++ ' ' :: '=' :: ' ' :: (r.written ++ '\n' :: rest) := by
  simp only [line, List.append_assoc, List.cons_append, List.nil_append]

theorem starts_line (r : Row) (rest : List Char) : Starts isKeyChar (r.line ++ rest) :=
  r.line_append rest ▸ r.bare.starts _

/-- The row of a number that the format has room for. -/
def ofNumber (row : String × Nat) (h : IsBare row.1 ∧ row.2 < intLimit) : Row where
  key := row.1
  written := Nat.toDigits 10 row.2
  value := .int row.2
  bare := h.1
  isRead := by
    intro rest
    have digits : ∀ c ∈ Nat.toDigits 10 row.2, c.isDigit = true := Text.isDigit_of_mem_toDigits
    have first := starts_append Nat.toDigits_ne_nil digits ('\n' :: rest)
    rw [first.skipSpace_eq (by decide) (by decide), value?_of_digits Nat.toDigits_ne_nil digits,
      scalar?_of_int? (int?_toDigits h.2)]
    rfl

theorem line_ofNumber (row : String × Nat) (h : IsBare row.1 ∧ row.2 < intLimit) :
    (ofNumber row h).line = (row.1 ++ " = " ++ toString row.2 ++ "\n").toList := by
  have digits : (toString row.2).toList = Nat.toDigits 10 row.2 := Nat.toList_repr
  simp only [String.toList_append, digits, List.append_assoc]
  rfl

end Row

/-! ## Reading a row -/

theorem keyPart?_bare {key : String} (h : IsBare key) {c : Char} (hc : isKeyChar c = false)
    (rest : List Char) : keyPart? (key.toList ++ c :: rest) = some (key, c :: rest) := by
  have bare : (key.toList ++ c :: rest).takeWhile isKeyChar = key.toList := by
    rw [List.takeWhile_append_of_pos h.chars, List.takeWhile_cons_of_neg (by simp [hc]),
      List.append_nil]
  rw [keyPart?]
  · simp only [bare, List.isEmpty_iff, h.nonempty, if_false, String.ofList_toList, List.drop_left]
  · exact fun _ => (h.starts _).ne (by decide)
  · exact fun _ => (h.starts _).ne (by decide)

theorem key?_bare {key : String} (h : IsBare key) (rest : List Char) :
    key? (key.toList ++ ' ' :: '=' :: rest) = some ([key], '=' :: rest) := by
  rw [key?, depthLimit, keyParts, (h.starts _).skipSpace_eq (by decide) (by decide),
    keyPart?_bare h (by decide)]
  rfl

theorem pair_row (r : Row) (rest : List Char) :
    pair (value? depthLimit) (r.line ++ rest) = some (([r.key], r.value), '\n' :: rest) := by
  have behind : skipSpace (' ' :: (r.written ++ '\n' :: rest)) =
      skipSpace (r.written ++ '\n' :: rest) := rfl
  simp only [r.line_append, pair, key?_bare r.bare, behind, r.isRead, Option.map_some]

section Members

variable {key : String} {members : List (String × Node)}

theorem put_of_notMem (h : key ∉ members.map (·.1)) (node : Node) :
    put key node members = members ++ [(key, node)] := by
  induction members with
  | nil => rfl
  | cons m rest ih =>
    obtain ⟨first, others⟩ := not_or.mp (mt List.mem_cons.mpr h)
    rw [put, if_neg (Ne.symm first), ih others]
    rfl

theorem addValue_single (h : key ∉ members.map (·.1)) (v : Toml) :
    addValue members [key] v = some (members ++ [(key, .value v)]) := by
  simp [addValue, alter, lookup_eq_none_of_notMem h, put_of_notMem h]

end Members

section Rows

variable {r : Row} {d : Draft}

/-- The line of a row adds its member to the present table, if that does not have its key yet. -/
theorem line_row (h : r.key ∉ d.members.map (·.1)) (rest : List Char) :
    line d (r.line ++ rest) =
      some ({ d with members := d.members ++ [r.member] }, '\n' :: rest) := by
  have first := r.starts_line rest
  rw [line, pair_row]
  · simp only [addValue_single h, Option.map_some]
    rfl
  · exact fun _ => first.ne (by decide)
  · exact fun _ => first.ne (by decide)
  · obtain ⟨c, more, e, -⟩ := first
    rw [e]
    nofun
  · exact fun _ => first.ne (by decide)
  · exact fun _ => first.ne (by decide)
  · exact fun _ => first.ne (by decide)

theorem linesFrom_row (h : r.key ∉ d.members.map (·.1)) (left : Nat) (rest : List Char) :
    linesFrom (left + 1) d (r.line ++ rest) =
      linesFrom left { d with members := d.members ++ [r.member] } rest := by
  rw [linesFrom, (r.starts_line rest).skipSpace_eq (by decide) (by decide), line_row h]
  rfl

end Rows

/-! ## Documents -/

/-- Rows of new keys are put behind the members that are there. -/
theorem linesFrom_rows {rows : List Row} (distinct : (rows.map Row.key).Nodup) (d : Draft)
    (new : ∀ r ∈ rows, r.key ∉ d.members.map (·.1)) {left : Nat} (h : rows.length < left) :
    linesFrom left d (rows.flatMap Row.line) =
      some { d with members := d.members ++ rows.map Row.member } := by
  obtain ⟨left, rfl⟩ := Nat.exists_eq_succ_of_ne_zero (Nat.ne_of_gt (Nat.zero_lt_of_lt h))
  induction rows generalizing d left with
  | nil =>
    rw [List.map_nil, List.append_nil]
    rfl
  | cons r rows ih =>
    obtain ⟨first, others⟩ := List.forall_mem_cons.mp new
    obtain ⟨fresh, distinct⟩ := List.nodup_cons.mp distinct
    have room : rows.length < left := Nat.lt_of_succ_lt_succ h
    obtain ⟨left, rfl⟩ := Nat.exists_eq_succ_of_ne_zero (Nat.ne_of_gt (Nat.zero_lt_of_lt room))
    have still : ∀ other ∈ rows, other.key ∉ (d.members ++ [r.member]).map (·.1) := by
      intro other ho
      rw [List.map_append, List.mem_append, not_or]
      refine ⟨others other ho, fun e => fresh ?_⟩
      have same : other.key = r.key := List.mem_singleton.mp e
      exact same ▸ List.mem_map_of_mem ho
    rw [List.flatMap_cons, linesFrom_row first, ih distinct _ still left room, List.map_cons,
      List.append_assoc]
    rfl

theorem valuesOf_members (rows : List Row) :
    valuesOf (rows.map Row.member) = rows.map fun r => (r.key, r.value) := by
  induction rows with
  | nil => rfl
  | cons r rest ih => rw [List.map_cons, Row.member, valuesOf, ih, Node.toValue, List.map_cons]

theorem length_le_length_lines (rows : List Row) :
    rows.length ≤ (rows.flatMap Row.line).length := by
  induction rows with
  | nil => exact Nat.le_refl 0
  | cons r rest ih =>
    rw [List.flatMap_cons, List.length_append, Row.line, List.length_append, List.length_cons,
      List.length_cons]
    omega

/-- A document of rows is read as the values under their keys. -/
theorem parse?_rows {rows : List Row} (distinct : (rows.map Row.key).Nodup) {text : String}
    (h : text.toList = rows.flatMap Row.line) :
    parse? text = some (rows.map fun r => (r.key, r.value)) := by
  have plain : ∀ rest, rows.flatMap Row.line ≠ '\ufeff' :: rest := by
    cases rows with
    | nil => nofun
    | cons r rest => exact fun _ => (r.starts_line _).ne (by decide)
  have read := linesFrom_rows distinct {} (fun _ _ => List.not_mem_nil)
    (Nat.lt_succ_of_le (length_le_length_lines rows))
  rw [parse?, h]
  split
  · next rest e => exact absurd e (plain rest)
  · rw [read]
    exact congrArg some (valuesOf_members rows)

/-- A document of numbers, one to a line, is read as the numbers under their keys. -/
theorem parse?_numbers {rows : List (String × Nat)} (distinct : (rows.map (·.1)).Nodup)
    (fit : ∀ row ∈ rows, IsBare row.1 ∧ row.2 < intLimit) :
    parse? (String.join (rows.map fun row => row.1 ++ " = " ++ toString row.2 ++ "\n")) =
      some (rows.map fun row => (row.1, .int row.2)) := by
  have keys : (rows.pmap Row.ofNumber fit).map Row.key = rows.map (·.1) := by
    simp only [List.map_pmap, Row.ofNumber, List.pmap_eq_map]
  have values : ((rows.pmap Row.ofNumber fit).map fun r => (r.key, r.value)) =
      rows.map fun row => (row.1, .int row.2) := by
    simp only [List.map_pmap, Row.ofNumber, List.pmap_eq_map]
  have lines : (rows.pmap Row.ofNumber fit).map Row.line =
      rows.map fun row => (row.1 ++ " = " ++ toString row.2 ++ "\n").toList := by
    simp only [List.map_pmap, Row.line_ofNumber, List.pmap_eq_map]
  rw [parse?_rows (keys ▸ distinct), values]
  rw [String.toList_join, List.flatMap_map, List.flatMap_def, List.flatMap_def, lines]

end Toml
end Workbook
