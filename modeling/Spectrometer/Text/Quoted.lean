import Spectrometer.Text.Printable

/-!
Quoted text. A double quote, a backslash, the blanks with a letter of their own and every character
that has no glyph of its own are written as escapes; all else stands for itself.
-/

namespace Spectrometer.Text

namespace Quoted

/-- The lower-case hexadecimal digits of `n`, at least one. -/
def lowerHex (n : Nat) : List Char :=
  Nat.toDigits 16 n

/-- One character as it stands between the quotes. -/
def escape (c : Char) : List Char :=
  if c = '\x00' then ['\\', '0']
  else if c = '\t' then ['\\', 't']
  else if c = '\r' then ['\\', 'r']
  else if c = '\n' then ['\\', 'n']
  else if c = '\\' ∨ c = '"' then ['\\', c]
  else if isPrintable c then [c]
  else ['\\', 'u', '\x7b'] ++ lowerHex c.toNat ++ ['\x7d']

end Quoted

def quoted (s : String) : String :=
  String.ofList (['"'] ++ s.toList.flatMap Quoted.escape ++ ['"'])

end Spectrometer.Text
