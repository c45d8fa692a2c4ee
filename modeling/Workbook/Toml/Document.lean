import Workbook.Toml.Lexeme

/-!
TOML documents.

A document is a sequence of lines: key and value, or the header of a table or of one more table of
an array.  A table is defined once.  Tables come into being by a header of their own, on the way to
another table's header, or by a dotted key; the last two can still be added to, each in its own way
(`Origin`).
-/

namespace Workbook
namespace Toml

/-! ## Values -/

/-- How a table came into being. -/
inductive Origin where
  /-- By its header, or between braces; complete in itself. -/
  | defined
  /-- On the way to the header of a table in it. -/
  | implied
  /-- By dotted keys. -/
  | dotted
deriving DecidableEq, Repr

/-- What stands under a key while a document is read. -/
inductive Node where
  | value (v : Toml)
  | table (origin : Origin) (members : List (String × Node))
  /-- An array of tables, the last one first. -/
  | tables (items : List (List (String × Node)))

/-- Puts a node in the place of the one under a key, or at the end. -/
def put (key : String) (node : Node) : List (String × Node) → List (String × Node)
  | [] => [(key, node)]
  | m :: rest => if m.1 = key then (key, node) :: rest else m :: put key node rest

/-- Changes the table at a path.  Tables on the way are made as needed, with the given origin; with
a dotted key it must not lead into tables that are complete. -/
def alter (made : Origin) (change : Origin → List (String × Node) → Option (List (String × Node)))
    (origin : Origin) (members : List (String × Node)) :
    List String → Option (List (String × Node))
  | [] => change origin members
  | key :: path =>
    match members.lookup key with
    | none =>
      (alter made change made [] path).map fun inner => put key (.table made inner) members
    | some (.value _) => none
    | some (.table o inner) =>
      if made = .dotted ∧ o = .defined then none
      else (alter made change o inner path).map fun inner => put key (.table o inner) members
    | some (.tables (last :: others)) =>
      (alter made change .defined last path).map fun last =>
        put key (.tables (last :: others)) members
    | some (.tables []) => none

/-- Adds a value under a dotted key.  The table must be of dotted keys exactly if there are several
parts to the key, and must not have the last part yet. -/
def addValue (members : List (String × Node)) (path : List String) (v : Toml) :
    Option (List (String × Node)) :=
  match path.reverse with
  | [] => none
  | key :: before =>
    let change (origin : Origin) (inner : List (String × Node)) :=
      if (!before.isEmpty && origin != .dotted) || (inner.lookup key).isSome then none
      else some (put key (.value v) inner)
    alter .dotted change .defined members before.reverse

mutual

/-- The value of a node. -/
def Node.toValue : Node → Toml
  | .value v => v
  | .table _ members => .table (valuesOf members)
  | .tables items => .list (tablesOf items).reverse

def valuesOf : List (String × Node) → List (String × Toml)
  | [] => []
  | (key, node) :: rest => (key, node.toValue) :: valuesOf rest

def tablesOf : List (List (String × Node)) → List Toml
  | [] => []
  | members :: rest => .table (valuesOf members) :: tablesOf rest

end

/-- A character of a number, a date, or a word for a value. -/
def isScalarChar (c : Char) : Bool :=
  c.isAlphanum || c == '+' || c == '-' || c == '_' || c == '.' || c == ':'

/-- A value that is one run of characters.  A single space may part a date from a time. -/
def scalarRun? : Reader Toml := fun cs =>
  let run := cs.takeWhile isScalarChar
  let rest := cs.drop run.length
  let whole :=
    match date? run, rest with
    | some [], ' ' :: c :: more =>
      if c.isDigit then run ++ ' ' :: (c :: more).takeWhile isScalarChar else run
    | _, _ => run
  (scalar? whole).map (·, cs.drop whole.length)

/-- The items of an array up to its end.  The count bounds them. -/
def itemsFrom (value? : Reader Toml) : Nat → List Toml → Reader (List Toml)
  | 0, _, _ => none
  | left + 1, held, cs =>
    match skipBlank cs with
    | ']' :: rest => some (held.reverse, rest)
    | cs =>
      match value? cs with
      | none => none
      | some (v, rest) =>
        match skipBlank rest with
        | ',' :: rest => itemsFrom value? left (v :: held) rest
        | ']' :: rest => some ((v :: held).reverse, rest)
        | _ => none

/-- A key, an equals sign and a value. -/
def pair (value? : Reader Toml) : Reader (List String × Toml) := fun cs =>
  match key? cs with
  | some (path, '=' :: rest) =>
    (value? (skipSpace rest)).map fun (v, rest) => ((path, v), rest)
  | _ => none

/-- The pairs of a table between braces up to its end.  The count bounds them. -/
def pairsFrom (value? : Reader Toml) : Nat → List (String × Node) → Reader (List (String × Node))
  | 0, _, _ => none
  | left + 1, members, cs =>
    match pair value? cs with
    | none => none
    | some ((path, v), rest) =>
      match addValue members path v, skipSpace rest with
      | some members, ',' :: rest => pairsFrom value? left members rest
      | some members, '\x7d' :: rest => some (members, rest)
      | _, _ => none

/-- A value in which containers are at most so deep. -/
def value? : Nat → Reader Toml
  | depth, cs =>
    match cs, depth with
    | '[' :: rest, inner + 1 =>
      (itemsFrom (value? inner) (rest.length + 1) [] rest).map fun (items, rest) =>
        (.list items, rest)
    | '\x7b' :: rest, inner + 1 =>
      match skipSpace rest with
      | '\x7d' :: rest => some (.table [], rest)
      | rest =>
        (pairsFrom (value? inner) (rest.length + 1) [] rest).map fun (members, rest) =>
          (.table (valuesOf members), rest)
    | '"' :: _, _ => (text? cs).map fun (s, rest) => (.text s, rest)
    | '\x27' :: _, _ => (text? cs).map fun (s, rest) => (.text s, rest)
    | _, _ => scalarRun? cs

/-! ## Lines -/

/-- The document so far, and the table to which the next pairs belong. -/
structure Draft where
  root : List (String × Node) := []
  /-- The path of the present table. -/
  path : List String := []
  members : List (String × Node) := []
  /-- Whether the present table is one of an array. -/
  inArray : Bool := false

/-- Puts the present table into the document. -/
def Draft.close (d : Draft) : Option (List (String × Node)) :=
  match d.path.reverse with
  | [] => some d.members
  | key :: before =>
    let change (_ : Origin) (outer : List (String × Node)) :=
      match outer.lookup key, d.inArray with
      | none, true => some (put key (.tables [d.members]) outer)
      | some (.tables items), true => some (put key (.tables (d.members :: items)) outer)
      | none, false => some (put key (.table .defined d.members) outer)
      | _, _ => none
    alter .implied change .defined d.root before.reverse

/-- Takes a node out of a table. -/
def remove (key : String) (members : List (String × Node)) : List (String × Node) :=
  members.filter (·.1 != key)

/-- Starts the table of a header.  A table that was only implied so far is taken up again. -/
def Draft.openTable (d : Draft) (path : List String) : Option Draft :=
  match d.close, path.reverse with
  | some root, key :: before =>
    let held? (outer : List (String × Node)) : Option (List (String × Node)) :=
      match outer.lookup key with
      | none => some []
      | some (.table .implied inner) => some inner
      | _ => none
    let take (_ : Origin) (outer : List (String × Node)) :=
      (held? outer).map fun _ => remove key outer
    let find (_ : Origin) (outer : List (String × Node)) := held? outer
    match alter .implied take .defined root before.reverse, foundAt find root before.reverse with
    | some root, some members => some { root, path, members, inArray := false }
    | _, _ => none
  | _, _ => none
where
  /-- What `find` makes of the table at a path. -/
  foundAt (find : Origin → List (String × Node) → Option (List (String × Node)))
      (members : List (String × Node)) : List String → Option (List (String × Node))
    | [] => find .defined members
    | key :: path =>
      match members.lookup key with
      | none => foundAt find [] path
      | some (.table _ inner) => foundAt find inner path
      | some (.tables (last :: _)) => foundAt find last path
      | _ => none

/-- Starts one more table of an array. -/
def Draft.openItem (d : Draft) (path : List String) : Option Draft :=
  match d.close, path.reverse with
  | some root, key :: before =>
    let check (_ : Origin) (outer : List (String × Node)) :=
      match outer.lookup key with
      | none => some outer
      | some (.tables _) => some outer
      | _ => none
    (alter .implied check .defined root before.reverse).map fun root =>
      { root, path, members := [], inArray := true }
  | _, _ => none

/-- Reads one line without its end. -/
def line (d : Draft) (cs : List Char) : Option (Draft × List Char) :=
  match cs with
  | '[' :: '[' :: rest =>
    match key? rest with
    | some (path, ']' :: ']' :: rest) => (d.openItem path).map (·, rest)
    | _ => none
  | '[' :: rest =>
    match key? rest with
    | some (path, ']' :: rest) => (d.openTable path).map (·, rest)
    | _ => none
  | [] => some (d, [])
  | '#' :: _ => some (d, cs)
  | '\n' :: _ => some (d, cs)
  | '\r' :: _ => some (d, cs)
  | cs =>
    match pair (value? depthLimit) cs with
    | some ((path, v), rest) =>
      (addValue d.members path v).map fun members => ({ d with members }, rest)
    | none => none

/-- Reads lines to the end.  The count bounds them. -/
def linesFrom : Nat → Draft → List Char → Option Draft
  | 0, _, _ => none
  | left + 1, d, cs =>
    match line d (skipSpace cs) with
    | none => none
    | some (d, rest) =>
      match skipComment (skipSpace rest) with
      | [] => some d
      | rest =>
        match lineEnd? rest with
        | some rest => linesFrom left d rest
        | none => none

/-- The members of the table that a text writes.  A byte order mark in front is passed over. -/
def parse? (text : String) : Option (List (String × Toml)) :=
  let cs := match text.toList with
    | '\ufeff' :: rest => rest
    | cs => cs
  (linesFrom (cs.length + 1) {} cs).bind fun d => d.close.map valuesOf

end Toml
end Workbook
