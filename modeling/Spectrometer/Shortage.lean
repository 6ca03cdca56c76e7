/-!
Memory for lists whose length the user chooses. A list with more bytes than can be addressed is not
even begun, and the program ends with a status of its own; for one that could be addressed, but for
which the system has no room, the system ends the program.
-/

namespace Spectrometer

inductive Shortage
  | unaddressable
  | exhausted
  deriving DecidableEq, Repr

namespace Shortage

/-- The most bytes that a list can have. -/
def maxBytes : Nat := 0x7FFFFFFFFFFFFFFF

/-- What a list of `count` items with `size` bytes each lacks, if anything, where the system has
room for lists of at most `room` bytes. -/
def of? (room count size : Nat) : Option Shortage :=
  if maxBytes < count * size then some unaddressable
  else if room < count * size then some exhausted
  else none

def message : Shortage → String
  | unaddressable => "capacity overflow"
  | exhausted => "memory allocation failed"

/-- The status that the program ends with, none where it is the system that ends it. -/
def status : Shortage → Option Nat
  | unaddressable => some 101
  | exhausted => none

end Shortage

end Spectrometer
