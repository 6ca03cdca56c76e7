import Mathlib.Data.Nat.Digits.Defs
import Spectrometer.Text.Hex
import Spectrometer.Text.Numeral

/-!
What numerals stand for. The value of digits is their positional value in the radix; reading accepts
just the numerals whose value is within the limit, and every way to write a number digit by digit is
read back as that number.
-/

namespace Spectrometer.Text.Numeral

/-- The digits in the order of their values. -/
def alphabet : List Char :=
  ['0', '1', '2', '3', '4', '5', '6', '7', '8', '9', 'a', 'b', 'c', 'd', 'e', 'f']

/-- The value of a digit in either case, sixteen for a character that is none. -/
def digit (c : Char) : Nat := alphabet.idxOf c.toLower

/-- The positional value of digits. -/
def value (radix : Nat) (digits : List Char) : Nat :=
  Nat.ofDigits radix (digits.reverse.map digit)

/-- The text is made of digits of the radix, at least one, and their value is `n`. -/
structure Digits (radix : Nat) (text : List Char) (n : Nat) : Prop where
  nonempty : text ≠ []
  all : ∀ c ∈ text, digit c < radix
  value_eq : value radix text = n

/-- The text is a numeral for `n`: digits, maybe with a plus sign in front of them. -/
def Spells (radix : Nat) (text : List Char) (n : Nat) : Prop :=
  Digits radix text n ∨ ∃ digits, text = '+' :: digits ∧ Digits radix digits n

/-- Beyond ASCII no character lies in a range of digits or letters. -/
private theorem not_le_of_not_ascii {c d : Char} (hc : 128 ≤ c.toNat) (hd : d.toNat < 128) :
    ¬ c ≤ d := by
  intro hle
  have hnat : c.toNat ≤ d.toNat := hle
  omega

theorem digit_of_not_ascii {c : Char} (hc : 128 ≤ c.toNat) : digit c = 16 := by
  have hlower : c.toLower = c := dif_neg fun h => not_le_of_not_ascii hc (by decide) h.2
  have hnone : c ∉ alphabet := by
    have hall : ∀ d ∈ alphabet, d.toNat < 128 := by simp [alphabet]
    intro hmem
    exact absurd (hall c hmem) (by omega)
  rw [digit, hlower, List.idxOf_eq_length hnone]
  rfl

theorem digitValue?_eq {radix : Nat} (hradix : radix ≤ 16) (c : Char) :
    digitValue? radix c = if digit c < radix then some (digit c) else none := by
  by_cases hc : c.toNat < 128
  · have htable : ∀ (r : Fin 17) (n : Fin 128), digitValue? r (Char.ofNat n) =
        if digit (Char.ofNat n) < r then some (digit (Char.ofNat n)) else none := by
      decide +kernel
    simpa using htable ⟨radix, by omega⟩ ⟨c.toNat, hc⟩
  · have hbeyond : 128 ≤ c.toNat := by omega
    rw [digit_of_not_ascii hbeyond, if_neg (by omega)]
    simp [digitValue?, not_le_of_not_ascii hbeyond (show '9'.toNat < 128 by decide),
      not_le_of_not_ascii hbeyond (show 'z'.toNat < 128 by decide),
      not_le_of_not_ascii hbeyond (show 'Z'.toNat < 128 by decide)]

@[simp] theorem value_nil (radix : Nat) : value radix [] = 0 := rfl

theorem value_append (radix : Nat) (high low : List Char) :
    value radix (high ++ low) = value radix high * radix ^ low.length + value radix low := by
  rw [value, List.reverse_append, List.map_append, Nat.ofDigits_append, List.length_map,
    List.length_reverse, ← value, ← value]
  ring

@[simp] theorem value_singleton (radix : Nat) (c : Char) : value radix [c] = digit c :=
  Nat.ofDigits_singleton

section Reading

variable {radix limit n : Nat} {beyond : NumeralError} {text : List Char}

/-- What was read before counts as the digits in front. -/
theorem readDigits_eq_ok_iff (hpos : 0 < radix) (hradix : radix ≤ 16) {acc : Nat}
    (hacc : acc ≤ limit) :
    readDigits radix limit beyond text acc = .ok n ↔
      (∀ c ∈ text, digit c < radix) ∧
        acc * radix ^ text.length + value radix text = n ∧ n ≤ limit := by
  induction text generalizing acc with
  | nil =>
    simp only [readDigits, List.length_nil, pow_zero, mul_one, value_nil, add_zero]
    grind
  | cons c rest ih =>
    have hvalue : acc * radix ^ (c :: rest).length + value radix (c :: rest) =
        (acc * radix + digit c) * radix ^ rest.length + value radix rest := by
      rw [← List.singleton_append, value_append, value_singleton, List.length_append,
        List.length_singleton]
      ring
    rw [readDigits, digitValue?_eq hradix, hvalue, List.forall_mem_cons]
    by_cases hdigit : digit c < radix
    · rw [if_pos hdigit]
      by_cases hroom : acc * radix + digit c ≤ limit
      · simp only [if_pos hroom, ih hroom, hdigit, true_and]
      · have hgrows := Nat.le_mul_of_pos_right (acc * radix + digit c)
          (Nat.pow_pos (n := rest.length) hpos)
        simp only [if_neg hroom, reduceCtorEq, false_iff]
        rintro ⟨-, rfl, hlimit⟩
        omega
    · rw [if_neg hdigit]
      simp [hdigit]

theorem not_digits_of_mem (hradix : radix ≤ 16) {c : Char} (hc : digit c = 16) (hmem : c ∈ text) :
    ¬ Digits radix text n := by
  intro h
  have hdigit := h.all c hmem
  omega

/-- A plus sign is no digit, so in front it can only be the sign. -/
theorem spells_plus_iff (hradix : radix ≤ 16) :
    Spells radix ('+' :: text) n ↔ Digits radix text n := by
  rw [Spells, or_iff_right (not_digits_of_mem hradix rfl List.mem_cons_self)]
  constructor
  · rintro ⟨digits, hdigits, h⟩
    obtain rfl := List.tail_eq_of_cons_eq hdigits
    exact h
  · exact fun h => ⟨text, rfl, h⟩

theorem spells_iff_of_no_plus (hsign : ∀ rest, text ≠ '+' :: rest) :
    Spells radix text n ↔ Digits radix text n :=
  or_iff_left fun ⟨rest, hrest, _⟩ => hsign rest hrest

/-- Reading accepts just the numerals whose value is within the limit. -/
theorem unsigned_eq_ok_iff (hpos : 0 < radix) (hradix : radix ≤ 16) {s : String} :
    unsigned radix limit s = .ok n ↔ Spells radix s.toList n ∧ n ≤ limit := by
  have hread {text : List Char} (hsome : text ≠ []) :
      readDigits radix limit .tooLarge text 0 = .ok n ↔ Digits radix text n ∧ n ≤ limit := by
    rw [readDigits_eq_ok_iff hpos hradix (Nat.zero_le limit), Nat.zero_mul, Nat.zero_add]
    exact ⟨fun ⟨hall, hvalue, hlimit⟩ => ⟨⟨hsome, hall, hvalue⟩, hlimit⟩,
      fun ⟨h, hlimit⟩ => ⟨h.all, h.value_eq, hlimit⟩⟩
  have hnil : ¬ Digits radix [] n := fun h => h.nonempty rfl
  unfold unsigned
  split
  · next hs =>
    rw [hs, spells_iff_of_no_plus (by simp)]
    simp [hnil]
  · next hs =>
    rw [hs, spells_plus_iff hradix]
    simp [hnil]
  · next hs =>
    have hminus : ¬ Digits radix ['-'] n := not_digits_of_mem hradix rfl List.mem_cons_self
    rw [hs, spells_iff_of_no_plus (by simp)]
    simp [hminus]
  · next hsome hs =>
    rw [hs, spells_plus_iff hradix]
    exact hread hsome
  · next hsome _ _ hsign =>
    rw [spells_iff_of_no_plus hsign]
    exact hread hsome

end Reading

/-- A way to write numbers digit by digit, with `mark d` for the digit of value `d`. -/
structure Writes (radix : Nat) (mark : Nat → Char) (write : Nat → List Char) : Prop where
  digit_mark : ∀ d < radix, digit (mark d) = d
  short : ∀ n < radix, write n = [mark n]
  long : ∀ n, radix ≤ n → write n = write (n / radix) ++ [mark (n % radix)]

namespace Writes

variable {radix : Nat} {mark : Nat → Char} {write : Nat → List Char}

theorem digits (h : Writes radix mark write) (hradix : 1 < radix) (n : Nat) :
    Digits radix (write n) n := by
  induction n using Nat.strong_induction_on with
  | _ n ih =>
    by_cases hshort : n < radix
    · rw [h.short n hshort]
      refine ⟨List.cons_ne_nil _ _, ?_, ?_⟩
      · simp [h.digit_mark n hshort, hshort]
      · rw [value_singleton, h.digit_mark n hshort]
    · have hlast : n % radix < radix := Nat.mod_lt n (by omega)
      have hfront := ih (n / radix) (Nat.div_lt_self (by omega) hradix)
      rw [h.long n (by omega)]
      refine ⟨by simp, ?_, ?_⟩
      · rw [List.forall_mem_append, List.forall_mem_singleton, h.digit_mark _ hlast]
        exact ⟨hfront.all, hlast⟩
      · rw [value_append, hfront.value_eq, value_singleton, h.digit_mark _ hlast,
          List.length_singleton, pow_one, Nat.div_add_mod']

theorem length_le (h : Writes radix mark write) {n width : Nat} (hwidth : 0 < width)
    (hfits : n < radix ^ width) : (write n).length ≤ width := by
  induction width generalizing n with
  | zero => omega
  | succ width ih =>
    by_cases hshort : n < radix
    · rw [h.short n hshort, List.length_singleton]
      omega
    · have hmore : 0 < width := by
        refine Nat.pos_of_ne_zero ?_
        rintro rfl
        exact hshort (by simpa using hfits)
      have hfront : n / radix < radix ^ width := by
        rw [pow_succ, mul_comm] at hfits
        exact Nat.div_lt_of_lt_mul hfits
      rw [h.long n (by omega), List.length_append, List.length_singleton]
      exact Nat.succ_le_succ (ih hmore hfront)

end Writes

/-- Zeros in front do not count. -/
theorem Digits.zeros {radix n : Nat} {text : List Char} (h : Digits radix text n)
    (hradix : 0 < radix) (count : Nat) : Digits radix (List.replicate count '0' ++ text) n := by
  have hzero : digit '0' = 0 := rfl
  induction count with
  | zero => exact h
  | succ count ih =>
    rw [List.replicate_succ, List.cons_append]
    refine ⟨List.cons_ne_nil _ _, ?_, ?_⟩
    · rw [List.forall_mem_cons, hzero]
      exact ⟨hradix, ih.all⟩
    · rw [← List.singleton_append, value_append, value_singleton, hzero, Nat.zero_mul,
        Nat.zero_add, ih.value_eq]

theorem writes_toDigits {radix : Nat} (hradix : 1 < radix) (hmost : radix ≤ 16) :
    Writes radix Nat.digitChar (Nat.toDigits radix) where
  digit_mark d hd := by
    have htable : ∀ d : Fin 16, digit (Nat.digitChar d) = d := by decide
    exact htable ⟨d, by omega⟩
  short n hn := Nat.toDigits_of_lt_base hn
  long n hn := by
    have hlast : n % radix < radix := Nat.mod_lt n (by omega)
    rw [← Nat.toDigits_of_lt_base hlast,
      Nat.toDigits_append_toDigits hradix (Nat.div_pos hn (by omega)) hlast, Nat.div_add_mod]

private theorem go_eq_append (n : Nat) (acc : List Char) :
    Hex.digits.go n acc = Hex.digits.go n [] ++ acc := by
  induction n using Nat.strong_induction_on generalizing acc with
  | _ n ih =>
    rw [Hex.digits.go.eq_def n acc, Hex.digits.go.eq_def n []]
    split
    · rfl
    · rw [ih (n / 16) (by omega) (_ :: acc), ih (n / 16) (by omega) [_], List.append_assoc]
      rfl

theorem writes_hex : Writes 16 Hex.digit (Hex.digits.go · []) where
  digit_mark d hd := by
    have htable : ∀ d : Fin 16, digit (Hex.digit d) = d := by decide
    exact htable ⟨d, hd⟩
  short n hn := by rw [Hex.digits.go, if_pos hn]
  long n hn := by rw [Hex.digits.go, if_neg (by omega), go_eq_append]

theorem digits_hex (width n : Nat) : Digits 16 (Hex.digits width n) n :=
  (writes_hex.digits (by decide) n).zeros (by decide) _

theorem length_hex {width n : Nat} (hwidth : 0 < width) (hfits : n < 16 ^ width) :
    (Hex.digits width n).length = width := by
  have hlength := writes_hex.length_le hwidth hfits
  rw [Hex.digits, List.length_append, List.length_replicate]
  omega

end Spectrometer.Text.Numeral
