/-
  TagCalc.Toml.Reader

  Reads TOML documents. A document is a list of lines, each of which opens a
  table, appends a table to an array, or gives a key a value.
-/

import TagCalc.Toml.Scalars

namespace TagCalc.Toml

/-! ## Blanks, comments and line ends -/

/-- The text after blanks. -/
def skipBlanks (cs : List Char) : List Char := cs.dropWhile isBlank

/-- The text after a comment, if there is one. -/
def skipComment (cs : List Char) : List Char :=
  match cs with
  | '#' :: rest => rest.dropWhile isVisible
  | _ => cs

/-- The text after a line end; the end of the text is one. -/
def lineEnd : List Char → Option (List Char)
  | [] => some []
  | '\n' :: rest => some rest
  | '\r' :: '\n' :: rest => some rest
  | _ => none

/-- The text after the rest of a line, which holds blanks and a comment only. -/
def restOfLine (cs : List Char) : Option (List Char) := lineEnd (skipComment (skipBlanks cs))

/-- The text after blanks, comments and line ends. A comment is part of it only
    with the line end after it. The fuel bounds the number of lines. -/
def skipLines : (fuel : Nat) → List Char → List Char
  | 0, cs => cs
  | fuel + 1, cs =>
    let cs := skipBlanks cs
    match skipComment cs with
    | '\n' :: rest => skipLines fuel rest
    | '\r' :: '\n' :: rest => skipLines fuel rest
    | _ => cs

/-! ## Keys -/

/-- The number of levels that keys and values may not reach. -/
def depthLimit : Nat := 80

/-- Characters of keys without quotes. -/
def isKeyChar (c : Char) : Bool := c.isAlphanum || c == '-' || c == '_'

/-- A key in quotes or without. -/
def simpleKey? (cs : List Char) : Option (String × List Char) :=
  match cs with
  | '"' :: rest => (basicBody rest).map fun (s, rest) => (String.ofList s, rest)
  | '\x27' :: rest => (literalBody rest).map fun (s, rest) => (String.ofList s, rest)
  | _ =>
    let name := cs.takeWhile isKeyChar
    if name.isEmpty then none else some (String.ofList name, cs.dropWhile isKeyChar)

/-- A key after the point of a dotted key, and the keys after it. -/
def keyPath : (fuel : Nat) → List Char → Option (List String × List Char)
  | 0, _ => none
  | fuel + 1, cs => do
    let (key, rest) ← simpleKey? (skipBlanks cs)
    match skipBlanks rest with
    | '.' :: rest =>
      let (keys, rest) ← keyPath fuel rest
      return (key :: keys, rest)
    | rest => return ([key], rest)

/-- A dotted key of fewer levels than the limit. -/
def key? (cs : List Char) : Option (List String × List Char) := keyPath (depthLimit - 1) cs

/-- A key with a value: the keys on the way, the last one, and the value. -/
abbrev Pair := List String × String × Tree

/-- A pair from its dotted key and its value. -/
def pair? (keys : List String) (t : Tree) : Option Pair :=
  keys.getLast?.map fun key => (keys.dropLast, key, t)

/-- The table of pairs, in their order. -/
def tableOfPairs (pairs : List Pair) : Option Entries :=
  pairs.foldlM (fun es (path, key, t) => Entries.insertAt es key t path) []

/-! ## Values -/

mutual

/-- A value. `depth` is the number of arrays and inline tables that may still be
    opened; the fuel bounds the number of calls. -/
def value (fuel depth : Nat) (cs : List Char) : Option (Tree × List Char) :=
  match fuel with
  | 0 => none
  | fuel + 1 =>
    match cs with
    | '[' :: rest =>
      if depth = 0 then none
      else
        match skipLines rest.length rest with
        | ']' :: rest => some (.array [], rest)
        | rest => (items fuel (depth - 1) rest).map fun (xs, rest) => (.array xs, rest)
    | '\x7b' :: rest =>
      if depth = 0 then none
      else
        match skipBlanks rest with
        | '\x7d' :: rest => some (.table .inlined [], rest)
        | rest => do
          let (pairs, rest) ← pairs fuel (depth - 1) rest
          let entries ← tableOfPairs pairs
          return (.table .inlined entries, rest)
    | _ => scalar? cs

/-- One or more values separated by commas, perhaps another comma, and a closing
    bracket. -/
def items (fuel depth : Nat) (cs : List Char) : Option (List Tree × List Char) :=
  match fuel with
  | 0 => none
  | fuel + 1 => do
    let (x, rest) ← value fuel depth (skipLines cs.length cs)
    match skipLines rest.length rest with
    | ']' :: rest => return ([x], rest)
    | ',' :: rest =>
      match skipLines rest.length rest with
      | ']' :: rest => return ([x], rest)
      | rest =>
        let (xs, rest) ← items fuel depth rest
        return (x :: xs, rest)
    | _ => none

/-- One or more pairs separated by commas, and a closing brace. -/
def pairs (fuel depth : Nat) (cs : List Char) : Option (List Pair × List Char) :=
  match fuel with
  | 0 => none
  | fuel + 1 => do
    let (keys, rest) ← key? cs
    let rest ← expect '=' rest
    let (t, rest) ← value fuel depth (skipBlanks rest)
    let p ← pair? keys t
    match skipBlanks rest with
    | '\x7d' :: rest => return ([p], rest)
    | ',' :: rest =>
      let (ps, rest) ← pairs fuel depth rest
      return (p :: ps, rest)
    | _ => none

end

/-- A value at the start of a text. Every two calls take a character, so twice
    the length is fuel enough. -/
def value? (cs : List Char) : Option (Tree × List Char) :=
  value (2 * cs.length + 2) (depthLimit - 1) cs

/-! ## Lines -/

/-- What a line does. -/
inductive Line where
  | openTable (path : List String)
  | appendTable (path : List String)
  | pair (p : Pair)

/-- A line that is neither blank nor a comment. -/
def line? (cs : List Char) : Option (Line × List Char) :=
  match cs with
  | '[' :: '[' :: rest => do
    let (path, rest) ← key? rest
    let rest ← expect ']' rest
    let rest ← expect ']' rest
    let rest ← restOfLine rest
    return (.appendTable path, rest)
  | '[' :: rest => do
    let (path, rest) ← key? rest
    let rest ← expect ']' rest
    let rest ← restOfLine rest
    return (.openTable path, rest)
  | _ => do
    let (keys, rest) ← key? cs
    let rest ← expect '=' rest
    let (t, rest) ← value? (skipBlanks rest)
    let rest ← restOfLine rest
    let p ← pair? keys t
    return (.pair p, rest)

/-- The lines of a text. The fuel bounds their number. -/
def lines : (fuel : Nat) → List Char → Option (List Line)
  | 0, _ => none
  | fuel + 1, cs =>
    match skipBlanks cs with
    | [] => some []
    | cs =>
      match restOfLine cs with
      | some rest => lines fuel rest
      | none => do
        let (line, rest) ← line? cs
        let more ← lines fuel rest
        return line :: more

/-! ## Documents -/

/-- A document so far: its entries, and the path of the table that was opened
    last. -/
structure Draft where
  entries : Entries
  path : List String

/-- Takes in a line. -/
def Draft.take (d : Draft) : Line → Option Draft
  | .openTable path => (d.entries.openTable path).map (⟨·, path⟩)
  | .appendTable path => (d.entries.appendTable path).map (⟨·, path⟩)
  | .pair (path, key, t) =>
    (Entries.changeAt (fun es => Entries.insertAt es key t path) d.entries d.path).map (⟨·, d.path⟩)

/-- The byte order mark. -/
def byteOrderMark : Char := Char.ofNat 0xFEFF

/-- The text without a byte order mark at its start. -/
def dropMark : List Char → List Char
  | [] => []
  | c :: rest => if c == byteOrderMark then rest else c :: rest

/-- The entries of the document that the whole text denotes. -/
def read? (cs : List Char) : Option Entries := do
  let cs := dropMark cs
  let ls ← lines (cs.length + 1) cs
  let d ← ls.foldlM Draft.take ⟨[], []⟩
  return d.entries

end TagCalc.Toml
