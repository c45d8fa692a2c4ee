import Workbook.Proofs.Reference.Brackets
import Workbook.Proofs.Resolution.Reading

/-!
Resolving as substitution.

`Text.edited` makes edits of bytes all at once: what an edit puts in is not looked at again.  The
resolved text of a text is the text so edited, with one edit for each reference to an available
block (`utf8_text_resolve`).  Hence a text without references stays as it is, and around a bracketed
name a text is resolved part by part (`resolve_substitutes`).
-/

namespace Workbook

namespace Text

/-- New bytes for those from `start` up to `stop`. -/
structure Edit where
  start : Nat
  stop : Nat
  bytes : List UInt8
deriving DecidableEq, Repr

namespace Edit

def covers (e : Edit) (i : Nat) : Bool := e.start ≤ i && i < e.stop

/-- What stands in place of a byte, which comes with its number: the byte itself where no edit
covers it, and else the new bytes of an edit at the start of what it covers. -/
def place (edits : List Edit) (byte : UInt8 × Nat) : List UInt8 :=
  match edits.find? (·.covers byte.2) with
  | none => [byte.1]
  | some e => if byte.2 = e.start then e.bytes else []

end Edit

/-- Bytes with edits made all at once. -/
def edited (edits : List Edit) (bytes : List UInt8) : List UInt8 :=
  bytes.zipIdx.flatMap (Edit.place edits)

namespace Edit

variable {e : Edit} {edits : List Edit} {bytes : List UInt8} {k : Nat}

theorem flatMap_place_of_clear
    (clear : ∀ e ∈ edits, ∀ i, k ≤ i → i < k + bytes.length → e.covers i = false) :
    (bytes.zipIdx k).flatMap (place edits) = bytes := by
  have kept : ∀ byte ∈ bytes.zipIdx k, place edits byte = [byte.1] := by
    intro byte hb
    obtain ⟨hk, hl, -⟩ := List.mem_zipIdx hb
    have none : edits.find? (·.covers byte.2) = none :=
      List.find?_eq_none.mpr fun e he => by simp [clear e he byte.2 hk hl]
    rw [place, none]
  rw [List.flatMap_congr kept, ← List.map_eq_flatMap, List.zipIdx_map_fst]

theorem flatMap_place_of_covered {new : List UInt8} (nonempty : bytes ≠ []) :
    (bytes.zipIdx k).flatMap (place (⟨k, k + bytes.length, new⟩ :: edits)) = new := by
  obtain ⟨b, rest, rfl⟩ := List.exists_cons_of_ne_nil nonempty
  have covered : ∀ byte ∈ (b :: rest).zipIdx k,
      place (⟨k, k + (b :: rest).length, new⟩ :: edits) byte =
        if byte.2 = k then new else [] := by
    intro byte hb
    obtain ⟨hk, hl, -⟩ := List.mem_zipIdx hb
    have inside : covers ⟨k, k + (b :: rest).length, new⟩ byte.2 = true := by
      simp only [covers, Bool.and_eq_true, decide_eq_true_eq]
      exact ⟨hk, hl⟩
    simp only [place, List.find?_cons, inside]
  have others : ∀ byte ∈ rest.zipIdx (k + 1), (if byte.2 = k then new else []) = [] := by
    intro byte hb
    have hk := (List.mem_zipIdx hb).1
    exact if_neg (by omega)
  rw [List.flatMap_congr covered, List.zipIdx_cons, List.flatMap_cons, if_pos rfl,
    List.flatMap_eq_nil_iff.mpr others, List.append_nil]

theorem flatMap_place_cons (passed : e.stop ≤ k) :
    (bytes.zipIdx k).flatMap (place (e :: edits)) = (bytes.zipIdx k).flatMap (place edits) := by
  refine List.flatMap_congr fun byte hb => ?_
  have hk := (List.mem_zipIdx hb).1
  have clear : e.covers byte.2 = false := by
    simp only [covers, Bool.and_eq_false_iff, decide_eq_false_iff_not]
    omega
  simp only [place, List.find?_cons, clear]

end Edit
end Text

/-! ## Contents in place of references -/

/-- The edit that puts content in place of a reference. -/
def Reference.edit? (reading : String → Option Content) (r : Reference) : Option Text.Edit :=
  (reading r.name).map fun content => ⟨r.start, r.stop, Text.utf8 content.asText⟩

section

open Text (byteLength utf8)

theorem byteLength_le_start_of_mem {reading : String → Option Content} {before : List Char}
    {ps : List Piece} {e : Text.Edit}
    (he : e ∈ (Reference.ofPieces (byteLength before) ps).filterMap (Reference.edit? reading)) :
    byteLength before ≤ e.start := by
  obtain ⟨r, hr, edit⟩ := List.mem_filterMap.mp he
  obtain ⟨content, -, rfl⟩ := Option.map_eq_some_iff.mp edit
  obtain ⟨front, m, back, -, rfl⟩ := Reference.mem_ofPieces.mp hr
  rw [Mention.referenceAfter, Text.byteLength_append before]
  exact Nat.le_add_right ..

/-- Pieces resolved one by one are their text with all references edited at once. -/
theorem utf8_resolved (reading : String → Option Content) (before : List Char)
    (ps : List Piece) :
    utf8 (String.ofList (ps.flatMap (Piece.resolved reading))) =
      ((utf8 (String.ofList (ps.flatMap Piece.written))).zipIdx (byteLength before)).flatMap
        (Text.Edit.place
          ((Reference.ofPieces (byteLength before) ps).filterMap (Reference.edit? reading))) := by
  induction ps generalizing before with
  | nil => rfl
  | cons p ps ih =>
    have more := ih (before ++ p.written)
    have length : byteLength (before ++ p.written) =
        byteLength before + (utf8 (String.ofList p.written)).length := by
      rw [Text.byteLength_append, Text.length_utf8_ofList]
    have clear : ∀ e ∈ (Reference.ofPieces (byteLength (before ++ p.written)) ps).filterMap
        (Reference.edit? reading), ∀ i, byteLength before ≤ i →
          i < byteLength before + (utf8 (String.ofList p.written)).length →
            e.covers i = false := by
      intro e he i _ hi
      have := byteLength_le_start_of_mem he
      simp only [Text.Edit.covers, Bool.and_eq_false_iff, decide_eq_false_iff_not]
      omega
    simp only [List.flatMap_cons, Text.utf8_ofList_append, List.zipIdx_append, List.flatMap_append]
    rw [more, ← length]
    cases p with
    | plain c =>
      have same : Reference.ofPieces (byteLength before) (.plain c :: ps) =
          Reference.ofPieces (byteLength (before ++ [c])) ps := by
        rw [Text.byteLength_append]
        rfl
      rw [same]
      exact congrArg (· ++ _) (Text.Edit.flatMap_place_of_clear clear).symm
    | mention m =>
      rw [Reference.ofPieces_mention]
      cases given : reading m.text with
      | none =>
        have edit : (m.referenceAfter before).edit? reading = none := congrArg (Option.map _) given
        have kept : Piece.resolved reading (.mention m) = m.written := by
          simp only [Piece.resolved, given]
        rw [List.filterMap_cons_none edit, kept]
        exact congrArg (· ++ _) (Text.Edit.flatMap_place_of_clear clear).symm
      | some content =>
        let e : Text.Edit := ⟨byteLength before,
          byteLength before + (utf8 (String.ofList m.written)).length, utf8 content.asText⟩
        have edit : (m.referenceAfter before).edit? reading = some e := by
          have stop : (m.referenceAfter before).stop = _ := length
          rw [Reference.edit?, stop]
          exact congrArg (Option.map _) given
        have replaced : Piece.resolved reading (.mention m) = content.asText.toList := by
          simp only [Piece.resolved, given]
        have nonempty : utf8 (String.ofList m.written) ≠ [] := by
          have := Text.byteLength_pos
            (List.ne_nil_of_length_pos (Reference.length_written_pos m))
          rw [← Text.length_utf8_ofList] at this
          exact List.ne_nil_of_length_pos this
        have passed : e.stop ≤ byteLength (before ++ Piece.written (.mention m)) :=
          Nat.le_of_eq length.symm
        rw [List.filterMap_cons_some edit, replaced, String.ofList_toList,
          Text.Edit.flatMap_place_cons passed]
        exact congrArg (· ++ _) (Text.Edit.flatMap_place_of_covered nonempty).symm

end

/-! ## What a resolution makes of a text -/

/-- The content that a standing gives to a mention. -/
def Standing.content? : Standing → Option Content
  | .ready _ content => some content
  | _ => none

/-- The content that is available under a name, in whatever spelling. -/
def Resolution.content? (r : Resolution) (name : String) : Option Content :=
  (r.available.find? fun a => Name.normalize a.name == Name.normalize name).map (·.content)

namespace Store

variable {s : Store} {g : Graph} {data self : String}

/-- The standing of a name does not depend on how the name is spelt. -/
theorem standing_eq_of_normalize_eq {self? : Option BlockId} {name name' : String}
    (e : Name.normalize name = Name.normalize name') :
    s.standing g self? name = s.standing g self? name' := by
  simp only [standing, find?, e]

theorem mem_available {a : Available} :
    a ∈ (s.resolve g data self).available ↔
      a.name ∈ distinctNames data ∧
        s.standing g ((s.find? self).map (·.id)) a.name = .ready a.id a.content := by
  simp only [resolve, List.filterMap_map, List.mem_filterMap, Function.comp_apply]
  constructor
  · rintro ⟨name, hn, given⟩
    cases standing : s.standing g ((s.find? self).map (·.id)) name with
    | ready id content =>
      rw [standing] at given
      cases given
      exact ⟨hn, standing⟩
    | _ =>
      rw [standing] at given
      cases given
  · rintro ⟨hn, standing⟩
    exact ⟨a.name, hn, by rw [standing]; rfl⟩

theorem content?_resolve {name : String} (hn : name ∈ referencedNames data) :
    (s.resolve g data self).content? name =
      (s.standing g ((s.find? self).map (·.id)) name).content? := by
  have found : ∀ a, (s.resolve g data self).available.find?
      (fun a => Name.normalize a.name == Name.normalize name) = some a →
        s.standing g ((s.find? self).map (·.id)) name = .ready a.id a.content := by
    intro a ha
    have e : Name.normalize a.name = Name.normalize name := by simpa using List.find?_some ha
    rw [← standing_eq_of_normalize_eq e]
    exact (mem_available.mp (List.mem_of_find?_eq_some ha)).2
  rw [Resolution.content?]
  cases ha : (s.resolve g data self).available.find?
      fun a => Name.normalize a.name == Name.normalize name with
  | some a =>
    rw [found a ha]
    rfl
  | none =>
    cases standing : s.standing g ((s.find? self).map (·.id)) name with
    | ready id content =>
      obtain ⟨name', hn', e⟩ := exists_mem_distinctNames.mpr ⟨name, hn, rfl⟩
      rw [← standing_eq_of_normalize_eq e] at standing
      have available : ⟨name', id, content⟩ ∈ (s.resolve g data self).available :=
        mem_available.mpr ⟨hn', standing⟩
      have missed := List.find?_eq_none.mp ha _ available
      exact absurd e (by simpa using missed)
    | _ => rfl

/-- The resolved text has each piece resolved by its standing. -/
theorem text_resolve :
    (s.resolve g data self).text =
      String.ofList ((pieces data).flatMap (Piece.resolved fun name =>
        (s.standing g ((s.find? self).map (·.id)) name).content?)) := by
  simp only [resolve]
  congr 2
  funext p
  cases p with
  | plain c => rfl
  | mention m =>
    simp only [Piece.resolved]
    cases s.standing g ((s.find? self).map (·.id)) m.text <;> rfl

/-- The bytes of the resolved text are those of the text, with each reference to an available block
edited. -/
theorem utf8_text_resolve :
    Text.utf8 (s.resolve g data self).text =
      Text.edited ((references data).filterMap
        (Reference.edit? (s.resolve g data self).content?)) (Text.utf8 data) := by
  have contents : ∀ p ∈ pieces data,
      Piece.resolved (fun name => (s.standing g ((s.find? self).map (·.id)) name).content?) p =
        Piece.resolved (s.resolve g data self).content? p := by
    intro p hp
    cases p with
    | plain c => rfl
    | mention m =>
      simp only [Piece.resolved]
      rw [content?_resolve (text_mem_referencedNames hp)]
  rw [text_resolve, List.flatMap_congr contents, utf8_resolved _ [], written_pieces,
    String.ofList_toList]
  rfl

theorem map_name_ofPieces (offset : Nat) (ps : List Piece) :
    (Reference.ofPieces offset ps).map (·.name) =
      ps.filterMap fun p => p.mention?.map Mention.text := by
  induction ps generalizing offset with
  | nil => rfl
  | cons p ps ih =>
    cases p with
    | plain c => exact ih _
    | mention m => exact congrArg (m.text :: ·) (ih _)

theorem map_name_references (data : String) :
    (references data).map (·.name) = referencedNames data :=
  map_name_ofPieces 0 _

/-- A text without references stays as it is. -/
theorem resolve_of_references_eq_nil (h : references data = []) :
    s.resolve g data self = { text := data } := by
  have none : referencedNames data = [] := by rw [← map_name_references, h]; rfl
  have kept : ∀ p ∈ pieces data,
      Piece.resolved (fun name => (s.standing g ((s.find? self).map (·.id)) name).content?) p =
        p.written := by
    intro p hp
    cases p with
    | plain c => rfl
    | mention m =>
      have := text_mem_referencedNames hp
      rw [none] at this
      cases this
  have text : (s.resolve g data self).text = data := by
    rw [text_resolve, List.flatMap_congr kept, written_pieces, String.ofList_toList]
  have names : distinctNames data = [] := congrArg (Reference.distinctFrom []) none
  have parts : s.resolve g data self = { text := (s.resolve g data self).text } := by
    simp only [resolve, names, List.map_nil, List.filterMap_nil, List.filter_nil, List.isEmpty_nil,
      Bool.not_true]
  rw [parts, text]

/-- A text without references stays as it is.  A bracketed name is a reference whatever is around
it, and the texts around it are resolved as if they stood alone.  On the whole, all references to
available blocks are edited at once, and all other bytes stay. -/
theorem resolve_substitutes (s : Store) (g : Graph) (self : String) :
    (∀ data, references data = [] → s.resolve g data self = { text := data }) ∧
      (∀ pre n post : String, n ≠ "" → (∀ c ∈ n.toList, c ≠ '[' ∧ c ≠ ']') →
        let whole := pre ++ "[" ++ n ++ "]" ++ post
        let front := Text.byteLength (pre ++ "[" ++ n ++ "]").toList
        let r := s.resolve g whole self
        references whole =
            references pre ++
              ⟨n, .bracket, Text.byteLength pre.toList, front⟩ ::
                (references post).map (Reference.shift front) ∧
          r.text =
            (s.resolve g pre self).text ++
              ((r.content? n).map Content.asText).getD ("[" ++ n ++ "]") ++
                (s.resolve g post self).text) ∧
      ∀ data,
        Text.utf8 (s.resolve g data self).text =
          Text.edited ((references data).filterMap
            (Reference.edit? (s.resolve g data self).content?)) (Text.utf8 data) := by
  refine ⟨fun data => resolve_of_references_eq_nil, ?_, fun data => utf8_text_resolve⟩
  intro pre n post nonempty free whole front r
  have cut : pieces whole = pieces pre ++ .mention ⟨.bracket, n.toList⟩ :: pieces post :=
    pieces_around pre post nonempty free
  have mentioned : n ∈ referencedNames whole := by
    have there : .mention ⟨.bracket, n.toList⟩ ∈ pieces whole := by
      rw [cut]
      exact List.mem_append_right _ (List.mem_cons_self ..)
    have named := text_mem_referencedNames there
    rwa [Mention.text, String.ofList_toList] at named
  refine ⟨references_around pre post nonempty free, ?_⟩
  rw [content?_resolve mentioned, text_resolve, text_resolve, text_resolve, cut,
    List.flatMap_append, List.flatMap_cons, String.ofList_append, String.ofList_append,
    ← String.append_assoc]
  congr 2
  simp only [Piece.resolved, Mention.text, Mention.written, String.ofList_toList]
  cases (s.standing g ((s.find? self).map (·.id)) n).content? with
  | none => exact String.toList_injective (by simp)
  | some content => exact String.ofList_toList

set_option maxRecDepth 10000 in
/-- The content of the first block looks like references, and makes another one with the text after
it; none of them is resolved. -/
theorem resolve_substitutes_content_that_refers :
    let s : Store := { blocks := [
      { id := ⟨"1"⟩, name := "Alpha", kind := .static, content := some (.text "#beta [beta] [") },
      { id := ⟨"2"⟩, name := "beta", kind := .static, content := some (.text "é") }] }
    let pre := "ü#alpha #alpha-"
    let post := "beta]#beta"
    let whole := pre ++ "[" ++ " ALPHA " ++ "]" ++ post
    references whole =
        [⟨"alpha", .hash, 9, 15⟩, ⟨" ALPHA ", .bracket, 16, 25⟩, ⟨"beta", .hash, 30, 35⟩] ∧
      (s.resolve {} whole "").text = "ü#alpha #beta [beta] [-#beta [beta] [beta]é" ∧
      Text.utf8 (s.resolve {} whole "").text =
        Text.edited
          [⟨9, 15, Text.utf8 "#beta [beta] ["⟩, ⟨16, 25, Text.utf8 "#beta [beta] ["⟩,
            ⟨30, 35, Text.utf8 "é"⟩] (Text.utf8 whole) := by
  intro s pre post whole
  obtain ⟨-, around, edits⟩ := resolve_substitutes s {} ""
  obtain ⟨parts, text⟩ := around pre " ALPHA " post (by decide) (by simp)
  refine ⟨parts.trans (by decide +kernel), text.trans (by decide +kernel), ?_⟩
  exact (edits whole).trans (congrArg (Text.edited · (Text.utf8 whole)) (by decide +kernel))

end Store
end Workbook
