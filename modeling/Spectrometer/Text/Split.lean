/-!
Cutting text at a separator: once, at its first place, or at all of its places. Both are stated on
lists of characters.
-/

namespace Spectrometer.Text

/-- The parts before and after the first separator, if there is one. -/
def cut? (sep : Char) : List Char → Option (List Char × List Char)
  | [] => none
  | c :: rest =>
    if c = sep then some ([], rest)
    else (cut? sep rest).map fun (before, after) => (c :: before, after)

/-- The parts between the separators, of which there is one more than separators. -/
def pieces (sep : Char) : List Char → List (List Char)
  | [] => [[]]
  | c :: rest =>
    if c = sep then [] :: pieces sep rest
    else match pieces sep rest with
      | [] => [[c]]
      | part :: parts => (c :: part) :: parts

end Spectrometer.Text
