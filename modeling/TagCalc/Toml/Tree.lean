/-
  TagCalc.Toml.Tree

  TOML values, and tables under construction. A table remembers how it came to
  be, since that decides what may still be added to it:

    * a table given by a header may not be opened again;
    * a table that a header only passes through may be opened once;
    * a table made by a dotted key takes more dotted keys, but no header;
    * an inline table is complete.
-/

namespace TagCalc.Toml

/-- How a table came to be. -/
inductive Origin where
  | header
  | passing
  | dotted
  | inlined
deriving DecidableEq, Repr

/-- A TOML value. Dates and times are not told apart. An array of tables that is
    written with headers is kept apart from an array, because it can grow. -/
inductive Tree where
  | string (s : String)
  | integer (n : Int)
  | float (x : Float)
  | boolean (b : Bool)
  | datetime
  | array (items : List Tree)
  | table (origin : Origin) (entries : List (String × Tree))
  | tables (list : List (List (String × Tree)))

/-- The entries of a table, in the order in which they were made. -/
abbrev Entries := List (String × Tree)

namespace Entries

/-- The value of a key. -/
def value? (es : Entries) (key : String) : Option Tree :=
  (List.find? (fun e => e.1 == key) es).map (·.2)

/-- Gives a key that is present another value. -/
def setKey (es : Entries) (key : String) (t : Tree) : Entries :=
  List.map (fun (k, old) => if k == key then (k, t) else (k, old)) es

/-- Adds a key that is not present. -/
def addKey (es : Entries) (key : String) (t : Tree) : Entries := es ++ [(key, t)]

theorem value?_addKey {es : Entries} {key : String} (h : es.value? key = none) (t : Tree) :
    (es.addKey key t).value? key = some t := by
  have hes : List.find? (fun e => e.1 == key) es = none := by simpa [value?] using h
  simp [value?, addKey, List.find?_append, hes]

/-- Changes the last of a list of tables. -/
def changeLast (list : List Entries) (f : Entries → Option Entries) : Option (List Entries) :=
  list.getLast?.bind fun last => (f last).map fun last => list.dropLast ++ [last]

/-- Adds a value under a dotted key, given by the keys on the way and the last
    one. Tables on the way are made as needed. -/
def insertAt (es : Entries) (key : String) (t : Tree) : (path : List String) → Option Entries
  | [] => if (es.value? key).isSome then none else some (es.addKey key t)
  | k :: path =>
    match es.value? k with
    | none => (insertAt [] key t path).map fun sub => es.addKey k (.table .dotted sub)
    | some (.table .dotted sub) =>
      (insertAt sub key t path).map fun sub => es.setKey k (.table .dotted sub)
    | some (.table .passing sub) =>
      if path.isEmpty then none
      else (insertAt sub key t path).map fun sub => es.setKey k (.table .passing sub)
    | some (.tables list) =>
      if path.isEmpty then none
      else (changeLast list fun sub => insertAt sub key t path).map fun list =>
        es.setKey k (.tables list)
    | some _ => none

/-- Opens the table of a header. -/
def openTable (es : Entries) : (path : List String) → Option Entries
  | [] => none
  | [k] =>
    match es.value? k with
    | none => some (es.addKey k (.table .header []))
    | some (.table .passing sub) => some (es.setKey k (.table .header sub))
    | some _ => none
  | k :: path =>
    match es.value? k with
    | none => (openTable [] path).map fun sub => es.addKey k (.table .passing sub)
    | some (.table .inlined _) => none
    | some (.table origin sub) =>
      (openTable sub path).map fun sub => es.setKey k (.table origin sub)
    | some (.tables list) =>
      (changeLast list fun sub => openTable sub path).map fun list => es.setKey k (.tables list)
    | some _ => none

/-- Appends a table to the array of tables of a header. -/
def appendTable (es : Entries) : (path : List String) → Option Entries
  | [] => none
  | [k] =>
    match es.value? k with
    | none => some (es.addKey k (.tables [[]]))
    | some (.tables list) => some (es.setKey k (.tables (list ++ [[]])))
    | some _ => none
  | k :: path =>
    match es.value? k with
    | none => (appendTable [] path).map fun sub => es.addKey k (.table .passing sub)
    | some (.table .inlined _) => none
    | some (.table origin sub) =>
      (appendTable sub path).map fun sub => es.setKey k (.table origin sub)
    | some (.tables list) =>
      (changeLast list fun sub => appendTable sub path).map fun list => es.setKey k (.tables list)
    | some _ => none

/-- Changes the table that the last header opened. -/
def changeAt (f : Entries → Option Entries) (es : Entries) : (path : List String) → Option Entries
  | [] => f es
  | k :: path =>
    match es.value? k with
    | some (.table origin sub) =>
      (changeAt f sub path).map fun sub => es.setKey k (.table origin sub)
    | some (.tables list) =>
      (changeLast list fun sub => changeAt f sub path).map fun list => es.setKey k (.tables list)
    | _ => none

end Entries

end TagCalc.Toml
