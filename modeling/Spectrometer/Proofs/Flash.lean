import Mathlib.Data.List.Perm.Basic
import Spectrometer.Emulator.Device

/-!
The flash after a list of writes. A `Placement` is a successful write; a byte of the flash is the
AND of the bytes placed on its address and an erased byte, so that their order does not matter.
Programming the placed bytes over such a flash gives the one with a placement more.
-/

namespace Spectrometer

namespace Flash

/-- The data of a write and where it starts. -/
structure Placement where
  data : List UInt8
  offset : UInt32
  deriving DecidableEq, Repr

namespace Placement

/-- The bytes that a write covers: it is cut at the end of the flash. -/
def count (p : Placement) : Nat := min p.data.length (size - p.offset.toNat)

/-- The byte that a write places on an address, if it covers it. -/
def byteAt? (p : Placement) (address : Nat) : Option UInt8 :=
  if p.offset.toNat ≤ address ∧ address < p.offset.toNat + p.count then
    p.data[address - p.offset.toNat]?
  else none

theorem byteAt?_eq (p : Placement) (address : Nat) :
    p.byteAt? address = if p.offset.toNat ≤ address then
      (p.data.take (size - p.offset.toNat))[address - p.offset.toNat]? else none := by
  unfold byteAt? count
  rw [List.getElem?_take]
  by_cases hreached : p.offset.toNat ≤ address
  · rw [if_pos hreached]
    by_cases hcovered : address < p.offset.toNat + min p.data.length (size - p.offset.toNat)
    · rw [if_pos ⟨hreached, hcovered⟩, if_pos (by omega)]
    · rw [if_neg fun h => hcovered h.2]
      split
      · exact (List.getElem?_eq_none (by omega)).symm
      · rfl
  · rw [if_neg hreached, if_neg fun h => hreached h.1]

end Placement

/-- A byte of a flash with these successful writes since it was erased: the AND of all bytes placed
there and an erased byte. -/
def byteAt (log : List Placement) (address : Nat) : UInt8 :=
  (log.filterMap (·.byteAt? address)).foldr (· &&& ·) erasedByte

/-- A flash with these successful writes since it was erased. -/
def image (log : List Placement) : List UInt8 := (List.range' 0 size).map (byteAt log)

@[simp] theorem length_image (log : List Placement) : (image log).length = size := by
  rw [image, List.length_map, List.length_range']

theorem getElem?_image (log : List Placement) (address : Nat) :
    (image log)[address]? = if address < size then some (byteAt log address) else none := by
  unfold image
  by_cases haddress : address < size
  · rw [List.getElem?_map, List.getElem?_range' haddress, if_pos haddress, Nat.zero_add, Nat.one_mul]
    rfl
  · rw [if_neg haddress, List.getElem?_eq_none]
    simpa using haddress

theorem image_nil : image [] = List.replicate size erasedByte := by
  have hconst : byteAt [] = fun _ => erasedByte := rfl
  rw [image, hconst, List.map_const', List.length_range']

theorem byteAt_cons (p : Placement) (log : List Placement) (address : Nat) :
    byteAt (p :: log) address =
      (p.byteAt? address).elim (byteAt log address) (· &&& byteAt log address) := by
  unfold byteAt
  rw [List.filterMap_cons]
  cases p.byteAt? address <;> rfl

/-- In whatever order the writes are done, the flash is the same. -/
theorem image_perm {log log' : List Placement} (hperm : log.Perm log') : image log = image log' := by
  have : LeftCommutative (α := UInt8) (β := UInt8) (· &&& ·) :=
    ⟨fun a b c => by rw [← UInt8.and_assoc, UInt8.and_comm a, UInt8.and_assoc]⟩
  refine congrArg (List.map · (List.range' 0 size)) (funext fun address => ?_)
  exact (hperm.filterMap _).foldr_eq erasedByte

/-- A flash after bytes were programmed from `offset` on. -/
def overwrite (flash : List UInt8) (offset : Nat) (data : List UInt8) : List UInt8 :=
  flash.take offset ++ Device.program (flash.drop offset) data

theorem getElem?_program (olds news : List UInt8) (k : Nat) :
    (Device.program olds news)[k]? =
      olds[k]?.map fun old => news[k]?.elim old (old &&& ·) := by
  fun_induction Device.program olds news generalizing k with
  | case1 old olds new news ih =>
    cases k with
    | zero => rfl
    | succ k => exact ih k
  | case2 olds news hshort =>
    cases olds with
    | nil => rfl
    | cons old olds =>
      cases news with
      | nil => simp
      | cons new news => exact (hshort old olds new news rfl rfl).elim

theorem overwrite_nil (flash : List UInt8) (offset : Nat) : overwrite flash offset [] = flash := by
  have hkeep (olds : List UInt8) : Device.program olds [] = olds := by cases olds <;> rfl
  rw [overwrite, hkeep, List.take_append_drop]

theorem getElem?_overwrite {flash : List UInt8} {offset : Nat} (hoffset : offset ≤ flash.length)
    (data : List UInt8) (address : Nat) :
    (overwrite flash offset data)[address]? = flash[address]?.map fun old =>
      (if offset ≤ address then data[address - offset]? else none).elim old (old &&& ·) := by
  have hlength : (flash.take offset).length = offset := List.length_take_of_le hoffset
  rw [overwrite, List.getElem?_append, hlength]
  by_cases hbefore : address < offset
  · rw [if_pos hbefore, if_neg (Nat.not_le_of_gt hbefore), List.getElem?_take, if_pos hbefore]
    exact Option.map_id'.symm
  · rw [if_neg hbefore, if_pos (Nat.le_of_not_lt hbefore), getElem?_program, List.getElem?_drop,
      Nat.add_sub_cancel' (Nat.le_of_not_lt hbefore)]

/-- Programming what a write covers over a flash gives the flash with that write. -/
theorem overwrite_image (p : Placement) (log : List Placement) :
    overwrite (image log) p.offset.toNat (p.data.take (size - p.offset.toNat)) =
      image (p :: log) := by
  apply List.ext_getElem?
  intro address
  obtain hoffset | hbeyond := Nat.le_total p.offset.toNat size
  · rw [getElem?_overwrite (by rwa [length_image]), ← p.byteAt?_eq, getElem?_image,
      getElem?_image]
    split
    · rw [byteAt_cons]
      cases p.byteAt? address with
      | none => rfl
      | some new => exact congrArg some (UInt8.and_comm _ _)
    · rfl
  · have hnone : p.byteAt? address = none := by
      rw [p.byteAt?_eq, Nat.sub_eq_zero_of_le hbeyond]
      split <;> rfl
    rw [Nat.sub_eq_zero_of_le hbeyond, List.take_zero, overwrite_nil, getElem?_image,
      getElem?_image, byteAt_cons, hnone]
    rfl

/-- A stretch of a flash, cut at its end. -/
theorem take_drop_image (log : List Placement) (offset length : Nat) :
    ((image log).drop offset).take length =
      (List.range' offset (min length (size - offset))).map (byteAt log) := by
  rw [image, ← List.map_drop, ← List.map_take, List.drop_range', Nat.zero_add, Nat.mul_one]
  obtain hshort | hlong := Nat.le_total length (size - offset)
  · rw [List.take_range'_of_length_ge hshort, Nat.min_eq_left hshort]
  · rw [List.take_range'_of_length_le hlong, Nat.min_eq_right hlong]

end Flash

end Spectrometer
