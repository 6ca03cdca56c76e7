import Spectrometer.Text.Column
import Spectrometer.Text.Hex

/-!
Hex dumps: sixteen bytes a line, each line with the address of its first byte, the bytes in
hexadecimal, and the bytes as characters.
-/

namespace Spectrometer.HexDump

def lineLength : Nat := 16

def hexWidth : Nat := 47

/-- The data cut into lines; only the last may be shorter. -/
def chunks (data : List UInt8) : List (List UInt8) :=
  if data.isEmpty then [] else data.take lineLength :: chunks (data.drop lineLength)
termination_by data.length
decreasing_by
  rename_i h
  have : data ≠ [] := by simpa using h
  have := List.length_pos_iff.2 this
  simp only [List.length_drop, lineLength]
  omega

/-- A byte as a character: itself if it has a visible one in ASCII, a point otherwise. -/
def glyph (b : UInt8) : Char :=
  if 0x21 ≤ b ∧ b ≤ 0x7E then Char.ofNat b.toNat else '.'

/-- Two hexadecimal digits for each byte, with a blank between the bytes. -/
def hexColumn (line : List UInt8) : String :=
  " ".intercalate (line.map fun b => Text.Hex.render 2 b.toNat)

def textColumn (line : List UInt8) : String := String.ofList (line.map glyph)

/-- One line for the bytes at an address. -/
def renderLine (address : Nat) (line : List UInt8) : String :=
  Text.Hex.render 5 address ++ "  " ++ Text.padRight hexWidth (hexColumn line) ++ "  " ++
    textColumn line

/-- The dump of the bytes from `offset` on. -/
def render (offset : Nat) (data : List UInt8) : List String :=
  (chunks data).zipIdx.map fun (line, i) => renderLine (offset + i * lineLength) line

end Spectrometer.HexDump
