/-!
Columns of text: filling up to a width, on the left or on the right, and tables of two columns.
-/

namespace Spectrometer.Text

/-- Fills on the left up to `width` characters; longer text stays as it is. -/
def padLeft (fill : Char) (width : Nat) (s : String) : String :=
  String.ofList (List.replicate (width - s.length) fill ++ s.toList)

/-- Fills with blanks on the right up to `width` characters; longer text stays as it is. -/
def padRight (width : Nat) (s : String) : String :=
  String.ofList (s.toList ++ List.replicate (width - s.length) ' ')

/-- The lines of a table. The first column is as wide as its widest entry. -/
def table (rows : List (String × String)) : List String :=
  let width := (rows.map (·.1.length)).foldl max 0
  rows.map fun (label, text) => "  " ++ padRight width label ++ "  " ++ text

end Spectrometer.Text
