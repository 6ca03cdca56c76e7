/-!
Values spelled out for a reader: a name with its arguments, a name with its named fields, a tuple,
an optional value.
-/

namespace Spectrometer.Text

/-- A name and its arguments: `Name(a, b)`. -/
def tagged (name : String) (args : List String) : String :=
  name ++ "(" ++ ", ".intercalate args ++ ")"

/-- A tuple: `(a, b)`. -/
def tuple (items : List String) : String :=
  tagged "" items

/-- A name and its fields, of which there is at least one, in braces. -/
def record (name : String) (fields : List (String × String)) : String :=
  name ++ " \x7b " ++ ", ".intercalate (fields.map fun (key, value) => key ++ ": " ++ value) ++
    " \x7d"

/-- A value that may be missing. -/
def optional (render : α → String) : Option α → String
  | none => "None"
  | some a => tagged "Some" [render a]

end Spectrometer.Text
