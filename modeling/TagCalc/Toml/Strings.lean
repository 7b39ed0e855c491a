/-
  TagCalc.Toml.Strings

  The four kinds of TOML strings: basic and literal, on one line or on several.
  Basic strings have escapes and literal strings have none. Line ends inside a
  string are read as line feeds.

  Each reader takes the text after an opening mark and gives the characters of
  the string and the text after its closing mark.
-/

namespace TagCalc.Toml

/-- Blanks within a line. -/
def isBlank (c : Char) : Bool := c == ' ' || c == '\t'

/-- The characters that may stand in a comment: all but controls. -/
def isVisible (c : Char) : Bool :=
  c == '\t' || (0x20 ≤ c.toNat && c.toNat ≤ 0x7E) || 0x80 ≤ c.toNat

/-- The apostrophe, which encloses literal strings. -/
def apostrophe : Char := '\x27'

/-- The value of a hexadecimal digit. -/
def hexDigit? (c : Char) : Option Nat :=
  if c.isDigit then some (c.toNat - '0'.toNat)
  else if 'a' ≤ c && c ≤ 'f' then some (c.toNat - 'a'.toNat + 10)
  else if 'A' ≤ c && c ≤ 'F' then some (c.toNat - 'A'.toNat + 10)
  else none

/-- The character whose code has the given hexadecimal digits. -/
def codeChar? (ds : List Char) : Option Char := do
  let digits ← ds.mapM hexDigit?
  let n := digits.foldl (fun n d => 16 * n + d) 0
  if n.isValidChar then some (Char.ofNat n) else none

/-- The character that a letter after a backslash stands for. -/
def escaped? : Char → Option Char
  | '"' => some '"'
  | '\\' => some '\\'
  | 'b' => some '\x08'
  | 'f' => some '\x0C'
  | 'n' => some '\n'
  | 'r' => some '\r'
  | 't' => some '\t'
  | _ => none

/-- Puts a character before the string that was read. -/
def prepend (c : Option Char) (r : Option (List Char × List Char)) :
    Option (List Char × List Char) := do
  let c ← c
  let (cs, after) ← r
  return (c :: cs, after)

/-- A basic string. -/
def basicBody : List Char → Option (List Char × List Char)
  | [] => none
  | '"' :: rest => some ([], rest)
  | '\\' :: 'u' :: a :: b :: c :: d :: rest => prepend (codeChar? [a, b, c, d]) (basicBody rest)
  | '\\' :: 'U' :: a :: b :: c :: d :: e :: f :: g :: h :: rest =>
    prepend (codeChar? [a, b, c, d, e, f, g, h]) (basicBody rest)
  | '\\' :: letter :: rest => prepend (escaped? letter) (basicBody rest)
  | c :: rest => if isVisible c && c != '\\' then prepend (some c) (basicBody rest) else none

/-- Where a multi-line basic string stands: in its text, between a backslash and
    the line end that it hides, or in the blanks after a hidden line end. -/
inductive Fold where
  | text
  | pending
  | hidden
deriving DecidableEq, Repr

/-- A multi-line basic string. Up to two quotes may stand right before the
    closing three. -/
def basicLines : Fold → List Char → Option (List Char × List Char)
  | _, [] => none
  | .pending, '\n' :: rest => basicLines .hidden rest
  | .pending, '\r' :: '\n' :: rest => basicLines .hidden rest
  | .pending, c :: rest => if isBlank c then basicLines .pending rest else none
  | .hidden, ' ' :: rest | .hidden, '\t' :: rest | .hidden, '\n' :: rest => basicLines .hidden rest
  | .hidden, '\r' :: '\n' :: rest => basicLines .hidden rest
  | _, '"' :: '"' :: '"' :: '"' :: '"' :: rest => some (['"', '"'], rest)
  | _, '"' :: '"' :: '"' :: '"' :: rest => some (['"'], rest)
  | _, '"' :: '"' :: '"' :: rest => some ([], rest)
  | _, '\n' :: rest => prepend (some '\n') (basicLines .text rest)
  | _, '\r' :: '\n' :: rest => prepend (some '\n') (basicLines .text rest)
  | _, '\\' :: 'u' :: a :: b :: c :: d :: rest =>
    prepend (codeChar? [a, b, c, d]) (basicLines .text rest)
  | _, '\\' :: 'U' :: a :: b :: c :: d :: e :: f :: g :: h :: rest =>
    prepend (codeChar? [a, b, c, d, e, f, g, h]) (basicLines .text rest)
  | _, '\\' :: '\n' :: rest => basicLines .hidden rest
  | _, '\\' :: '\r' :: '\n' :: rest => basicLines .hidden rest
  | _, '\\' :: letter :: rest =>
    if isBlank letter then basicLines .pending rest
    else prepend (escaped? letter) (basicLines .text rest)
  | _, c :: rest =>
    if isVisible c && c != '\\' then prepend (some c) (basicLines .text rest) else none

/-- A literal string. -/
def literalBody : List Char → Option (List Char × List Char)
  | [] => none
  | '\x27' :: rest => some ([], rest)
  | c :: rest => if isVisible c then prepend (some c) (literalBody rest) else none

/-- A multi-line literal string. -/
def literalLines : List Char → Option (List Char × List Char)
  | [] => none
  | '\x27' :: '\x27' :: '\x27' :: '\x27' :: '\x27' :: rest => some (['\x27', '\x27'], rest)
  | '\x27' :: '\x27' :: '\x27' :: '\x27' :: rest => some (['\x27'], rest)
  | '\x27' :: '\x27' :: '\x27' :: rest => some ([], rest)
  | '\n' :: rest => prepend (some '\n') (literalLines rest)
  | '\r' :: '\n' :: rest => prepend (some '\n') (literalLines rest)
  | c :: rest => if isVisible c then prepend (some c) (literalLines rest) else none

/-- The text after a line end, if one comes first. -/
def dropLineEnd : List Char → List Char
  | '\n' :: rest => rest
  | '\r' :: '\n' :: rest => rest
  | cs => cs

/-- A string of any kind. A line end right after the opening mark of a
    multi-line string does not count. -/
def string? : List Char → Option (List Char × List Char)
  | '"' :: '"' :: '"' :: rest => basicLines .text (dropLineEnd rest)
  | '"' :: rest => basicBody rest
  | '\x27' :: '\x27' :: '\x27' :: rest => literalLines (dropLineEnd rest)
  | '\x27' :: rest => literalBody rest
  | _ => none

end TagCalc.Toml
