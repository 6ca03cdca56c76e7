import Spectrometer.CommandLine.Value
import Spectrometer.Proofs.Text.Numeral

/-!
Offsets on the command line. A text is an offset if it is a hexadecimal numeral after `0x` or `0X`,
or a decimal one without these, and if its value fits into a word; all other texts are rejected. So
every word is read back from every way to write it.
-/

namespace Spectrometer.CommandLine

open Text (Numeral.Spells Numeral.Digits NumeralError)

/-- Whether a text says by its first two characters that it is hexadecimal. -/
def Marked (text : List Char) : Prop := ['0', 'x'] <+: text ∨ ['0', 'X'] <+: text

instance : DecidablePred Marked := fun _ => inferInstanceAs (Decidable (_ ∨ _))

/-- The text stands for the number `n`, which may be too large for an offset. -/
def OffsetSpells (text : List Char) (n : Nat) : Prop :=
  if Marked text then Numeral.Spells 16 (text.drop 2) n else Numeral.Spells 10 text n

theorem hexDigits?_eq (s : String) :
    hexDigits? s = if Marked s.toList then some (String.ofList (s.toList.drop 2)) else none := by
  unfold hexDigits?
  split
  · next rest hs =>
    have hmarked : Marked s.toList := Or.inl ⟨rest, hs.symm⟩
    rw [if_pos hmarked, hs]
    rfl
  · next rest hs =>
    have hmarked : Marked s.toList := Or.inr ⟨rest, hs.symm⟩
    rw [if_pos hmarked, hs]
    rfl
  · next hlower hupper =>
    rw [if_neg]
    rintro (⟨rest, hrest⟩ | ⟨rest, hrest⟩)
    · exact hlower rest hrest.symm
    · exact hupper rest hrest.symm

/-- A numeral is read as a word if its value is one. -/
theorem word_eq_ok_iff {radix : Nat} (hpos : 0 < radix) (hradix : radix ≤ 16) (text : String)
    (error : NumeralError → ValueError) (v : UInt32) :
    (match Text.Numeral.unsigned radix (UInt32.size - 1) text with
      | .ok n => .ok (UInt32.ofNat n)
      | .error e => .error (error e) : Except ValueError UInt32) = .ok v ↔
    Numeral.Spells radix text.toList v.toNat := by
  have hread (n : Nat) : Text.Numeral.unsigned radix (UInt32.size - 1) text = .ok n ↔
      Numeral.Spells radix text.toList n ∧ n ≤ UInt32.size - 1 :=
    Text.Numeral.unsigned_eq_ok_iff hpos hradix
  have hword : Numeral.Spells radix text.toList v.toNat ↔
      Text.Numeral.unsigned radix (UInt32.size - 1) text = .ok v.toNat := by
    have hfits : v.toNat ≤ UInt32.size - 1 := Nat.le_pred_of_lt v.toNat_lt_size
    rw [hread, and_iff_left hfits]
  rw [hword]
  cases hresult : Text.Numeral.unsigned radix (UInt32.size - 1) text with
  | error e => simp
  | ok n =>
    have hfits : n < UInt32.size := by
      have hmost := ((hread n).mp hresult).2
      have hsome : 0 < UInt32.size := by decide
      omega
    simp only [Except.ok.injEq]
    rw [← UInt32.toNat_inj, UInt32.toNat_ofNat_of_lt' hfits]

theorem readOffset_eq_ok_iff (s : String) (v : UInt32) :
    readOffset s = .ok v ↔ OffsetSpells s.toList v.toNat := by
  unfold readOffset OffsetSpells
  rw [hexDigits?_eq]
  by_cases hmarked : Marked s.toList
  · have hdigits := word_eq_ok_iff (show 0 < 16 by decide) (by decide)
      (String.ofList (s.toList.drop 2)) .hexOffset v
    rw [String.toList_ofList] at hdigits
    rw [if_pos hmarked, if_pos hmarked]
    exact hdigits
  · rw [if_neg hmarked, if_neg hmarked]
    exact word_eq_ok_iff (by decide) (by decide) s .decimalOffset v

theorem readOffset_hexadecimal {x : Char} (hx : x = 'x' ∨ x = 'X') {digits : List Char}
    {v : UInt32} (hdigits : Numeral.Digits 16 digits v.toNat) :
    readOffset (String.ofList ('0' :: x :: digits)) = .ok v := by
  have hmarked : Marked ('0' :: x :: digits) := by
    obtain rfl | rfl := hx
    · exact Or.inl ⟨digits, rfl⟩
    · exact Or.inr ⟨digits, rfl⟩
  rw [readOffset_eq_ok_iff, String.toList_ofList, OffsetSpells, if_pos hmarked]
  exact Or.inl hdigits

theorem readOffset_decimal (v : UInt32) : readOffset (toString v.toNat) = .ok v := by
  have hwritten : Numeral.Digits 10 (Nat.toDigits 10 v.toNat) v.toNat :=
    (Text.Numeral.writes_toDigits (by decide) (by decide)).digits (by decide) v.toNat
  have hdigits : (toString v.toNat).toList = Nat.toDigits 10 v.toNat := by
    rw [Nat.toString_eq_ofList_toDigits, String.toList_ofList]
  have hplain : ¬ Marked (Nat.toDigits 10 v.toNat) := by
    rintro (⟨rest, hrest⟩ | ⟨rest, hrest⟩)
    · exact Text.Numeral.not_digits_of_mem (c := 'x') (by decide) rfl (hrest ▸ by simp) hwritten
    · exact Text.Numeral.not_digits_of_mem (c := 'X') (by decide) rfl (hrest ▸ by simp) hwritten
  rw [readOffset_eq_ok_iff, hdigits, OffsetSpells, if_neg hplain]
  exact Or.inl hwritten

/-- `readOffset` accepts a text with value `v` if and only if the text spells `v`: hexadecimal
digits after `0x` or `0X`, decimal digits otherwise, at least one digit, optionally after a plus
sign. It rejects a text if and only if the text spells no number or only one of at least `2 ^ 32`.
Every word is read back from its decimal digits and, after either prefix, from its hexadecimal
digits in lower or upper case with any number of leading zeros. -/
theorem readOffset_accepts_words :
    (∀ s v, readOffset s = .ok v ↔ OffsetSpells s.toList v.toNat) ∧
    (∀ s, (∃ e, readOffset s = .error e) ↔ ∀ n, OffsetSpells s.toList n → 2 ^ 32 ≤ n) ∧
    ∀ v : UInt32, readOffset (toString v.toNat) = .ok v ∧
      ∀ x, x = 'x' ∨ x = 'X' →
        (∀ zeros, readOffset (String.ofList
          ('0' :: x :: (List.replicate zeros '0' ++ Nat.toDigits 16 v.toNat))) = .ok v) ∧
        ∀ width,
          readOffset (String.ofList ('0' :: x :: Text.Hex.digits width v.toNat)) = .ok v := by
  refine ⟨readOffset_eq_ok_iff, ?_, ?_⟩
  · intro s
    constructor
    · rintro ⟨e, hrejected⟩ n hspells
      by_contra hword
      have hn : (UInt32.ofNat n).toNat = n := UInt32.toNat_ofNat_of_lt' (by simpa using hword)
      have haccepted := (readOffset_eq_ok_iff s (UInt32.ofNat n)).mpr (hn.symm ▸ hspells)
      rw [hrejected] at haccepted
      cases haccepted
    · intro hlarge
      cases hread : readOffset s with
      | error e => exact ⟨e, rfl⟩
      | ok v =>
        have hword := hlarge v.toNat ((readOffset_eq_ok_iff s v).mp hread)
        exact absurd v.toNat_lt (by omega)
  · intro v
    refine ⟨readOffset_decimal v, fun x hx => ⟨fun zeros => ?_, fun width => ?_⟩⟩
    · have hwrites := Text.Numeral.writes_toDigits (show 1 < 16 by decide) (by decide)
      exact readOffset_hexadecimal hx ((hwrites.digits (by decide) v.toNat).zeros (by decide) zeros)
    · exact readOffset_hexadecimal hx (Text.Numeral.digits_hex width v.toNat)

/-- Small digits behind a capital mark, with zeros in front. -/
theorem padded_word_read :
    ('X' = 'x' ∨ 'X' = 'X') ∧ readOffset "0X0001ffff" = .ok 131071 := by
  have hmark : 'X' = 'x' ∨ 'X' = 'X' := Or.inr rfl
  exact ⟨hmark, ((readOffset_accepts_words.2.2 131071).2 'X' hmark).1 3⟩

end Spectrometer.CommandLine
