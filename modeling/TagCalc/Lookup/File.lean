/-
  TagCalc.Lookup.File

  Suggestions from a file instead of a lookup service.
-/

import TagCalc.Lookup.Source
import TagCalc.Catalog.Document

namespace TagCalc

/-- The source that a file of suggestions gives. The file holds a catalog as
    UTF-8 text; `none` stands for a file that does not exist. -/
def Source.ofFile (content : Option ByteArray) : Except LookupError Source :=
  match content.bind String.fromUTF8? with
  | none => .error .unreadable
  | some text =>
    match Catalog.ofText? text with
    | none => .error .undecodable
    | some c => .ok (.fixed c)

end TagCalc
