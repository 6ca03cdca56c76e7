import Mathlib.Data.List.Forall2
import Spectrometer.Command.HexDump
import Spectrometer.Flash
import Spectrometer.Proofs.Text.Numeral

/-!
Hex dumps can be undone. Every line keeps its columns at fixed places, the bytes are read back from
the columns of hexadecimal digits, and the address of the first line is read back too; so a dump
tells all that was dumped and where it starts.
-/

namespace Spectrometer.HexDump

open Text.Numeral (Digits digit value)

theorem length_chunks (data : List UInt8) : (chunks data).length = (data.length + 15) / 16 := by
  fun_induction chunks data with
  | case1 data h => simp_all
  | case2 data h ih =>
    have hsome : 0 < data.length := List.length_pos_iff.mpr (by simpa using h)
    rw [List.length_cons, ih, List.length_drop, lineLength]
    omega

theorem getElem?_chunks (data : List UInt8) (i : Nat) :
    (chunks data)[i]? =
      if 16 * i < data.length then some ((data.drop (16 * i)).take 16) else none := by
  fun_induction chunks data generalizing i with
  | case1 data h => simp_all
  | case2 data h ih =>
    have hsome : 0 < data.length := List.length_pos_iff.mpr (by simpa using h)
    cases i with
    | zero => simp [hsome, lineLength]
    | succ i =>
      rw [List.getElem?_cons_succ, ih, List.length_drop, List.drop_drop, lineLength]
      have hplace : 16 + 16 * i = 16 * (i + 1) := by omega
      have hinside : 16 * i < data.length - 16 ↔ 16 * (i + 1) < data.length := by omega
      simp only [hplace, hinside]

theorem flatten_chunks (data : List UInt8) : (chunks data).flatten = data := by
  fun_induction chunks data with
  | case1 data h => simp_all
  | case2 data h ih => rw [List.flatten_cons, ih, List.take_append_drop]

/-- The characters of a line that show the address. -/
def addressCells (line : List Char) : List Char := line.take 5

/-- The characters of a line that show the bytes in hexadecimal. -/
def hexCells (line : List Char) : List Char := (line.drop 7).take 47

/-- The characters of a line that show the bytes as characters. -/
def textCells (line : List Char) : List Char := line.drop 56

/-- Reads bytes of two hexadecimal digits each, with any number of blanks around them. -/
def readBytes? : List Char → Option (List UInt8)
  | [] => some []
  | ' ' :: rest => readBytes? rest
  | high :: low :: rest =>
    if digit high < 16 ∧ digit low < 16 then
      (readBytes? rest).map (UInt8.ofNat (value 16 [high, low]) :: ·)
    else none
  | [_] => none

/-- All bytes that the lines of a dump show in hexadecimal. -/
def readDump? (lines : List String) : Option (List UInt8) :=
  (lines.mapM fun line => readBytes? (hexCells line.toList)).map List.flatten

/-- The character stands for the byte: it is the byte if that has a glyph in ASCII, else a point. -/
def Pictures (b : UInt8) (c : Char) : Prop :=
  if 0x21 ≤ b.toNat ∧ b.toNat ≤ 0x7E then c.toNat = b.toNat else c = '.'

/-- The line shows bytes from an address on, each column at its place. -/
structure Shows (line : List Char) (address : Nat) (bytes : List UInt8) : Prop where
  columns : line = addressCells line ++ [' ', ' '] ++ hexCells line ++ [' ', ' '] ++ textCells line
  addressWidth : (addressCells line).length = 5
  hexWidth : (hexCells line).length = 47
  address : Digits 16 (addressCells line) address
  hex : readBytes? (hexCells line) = some bytes
  text : List.Forall₂ Pictures bytes (textCells line)

/-- The dump as it stands on the console, every line with its end. -/
def printed (offset : Nat) (data : List UInt8) : String :=
  String.join ((render offset data).map (· ++ "\n"))

theorem readBytes?_blanks (count : Nat) : readBytes? (List.replicate count ' ') = some [] := by
  induction count with
  | zero => rfl
  | succ count ih => exact ih

theorem length_byte (b : UInt8) : (Text.Hex.digits 2 b.toNat).length = 2 :=
  Text.Numeral.length_hex (by decide) b.toNat_lt

theorem readBytes?_byte (b : UInt8) (rest : List Char) :
    readBytes? (Text.Hex.digits 2 b.toNat ++ rest) = (readBytes? rest).map (b :: ·) := by
  have hdigits := Text.Numeral.digits_hex 2 b.toNat
  obtain ⟨high, low, hcells⟩ := List.length_eq_two.mp (length_byte b)
  rw [hcells] at hdigits ⊢
  have hhigh := hdigits.all high (by simp)
  have hlow := hdigits.all low (by simp)
  have hblank : high ≠ ' ' := by
    rintro rfl
    exact absurd hhigh (by decide)
  rw [List.cons_append, List.singleton_append, readBytes?.eq_3 _ _ _ hblank,
    if_pos ⟨hhigh, hlow⟩, hdigits.value_eq, UInt8.ofNat_toNat]

theorem toList_hexColumn (line : List UInt8) :
    (hexColumn line).toList =
      [' '].intercalate (line.map fun b => Text.Hex.digits 2 b.toNat) := by
  rw [hexColumn, String.toList_intercalate, List.map_map]
  congr 1
  refine List.map_congr_left fun b _ => ?_
  exact String.toList_ofList

/-- The bytes of a line are read back, however many blanks fill its column. -/
theorem readBytes?_hexColumn (line : List UInt8) (blanks : Nat) :
    readBytes? ((hexColumn line).toList ++ List.replicate blanks ' ') = some line := by
  rw [toList_hexColumn]
  induction line with
  | nil => exact readBytes?_blanks blanks
  | cons b rest ih =>
    cases rest with
    | nil =>
      rw [List.map_singleton, List.intercalate_singleton, readBytes?_byte, readBytes?_blanks]
      rfl
    | cons b' rest =>
      rw [List.map_cons, List.map_cons, List.intercalate_cons_cons, List.append_assoc,
        List.append_assoc, readBytes?_byte]
      exact congrArg (Option.map (b :: ·)) ih

theorem length_hexColumn (line : List UInt8) :
    (hexColumn line).toList.length = 3 * line.length - 1 := by
  rw [toList_hexColumn]
  induction line with
  | nil => rfl
  | cons b rest ih =>
    cases rest with
    | nil =>
      rw [List.map_singleton, List.intercalate_singleton, length_byte]
      rfl
    | cons b' rest =>
      rw [List.map_cons, List.map_cons, List.intercalate_cons_cons, List.length_append,
        List.length_append, length_byte]
      rw [List.map_cons] at ih
      rw [ih]
      simp only [List.length_cons, List.length_nil]
      omega

theorem pictures_glyph (b : UInt8) : Pictures b (glyph b) := by
  have hglyph : (0x21 ≤ b ∧ b ≤ 0x7E) ↔ 0x21 ≤ b.toNat ∧ b.toNat ≤ 0x7E := Iff.rfl
  unfold Pictures glyph
  by_cases hvisible : 0x21 ≤ b.toNat ∧ b.toNat ≤ 0x7E
  · have hchar : b.toNat.isValidChar := Or.inl (by omega)
    rw [if_pos hvisible, if_pos (hglyph.mpr hvisible), Char.ofNat, dif_pos hchar]
    rfl
  · rw [if_neg hvisible, if_neg (mt hglyph.mp hvisible)]

theorem Pictures.ne_newline {b : UInt8} {c : Char} (h : Pictures b c) : c ≠ '\n' := by
  rintro rfl
  unfold Pictures at h
  split at h
  · have hten : ('\n'.toNat : Nat) = 10 := rfl
    omega
  · cases h

theorem toList_renderLine (address : Nat) (line : List UInt8) :
    (renderLine address line).toList = Text.Hex.digits 5 address ++ [' ', ' '] ++
      ((hexColumn line).toList ++ List.replicate (47 - (hexColumn line).toList.length) ' ') ++
      [' ', ' '] ++ line.map glyph := by
  have hgap : "  ".toList = [' ', ' '] := rfl
  simp only [renderLine, Text.Hex.render, Text.padRight, textColumn, hexWidth, String.toList_append,
    String.toList_ofList, String.length_toList, hgap]

/-- Columns of these widths are found at their places. -/
theorem cells_of_columns {address hex : List Char} (haddress : address.length = 5)
    (hhex : hex.length = 47) (text : List Char) :
    let line := address ++ [' ', ' '] ++ hex ++ [' ', ' '] ++ text
    addressCells line = address ∧ hexCells line = hex ∧ textCells line = text := by
  intro line
  have hline : line = address ++ ([' ', ' '] ++ hex ++ [' ', ' '] ++ text) := by
    simp only [line, List.append_assoc]
  have hbehind : line.drop 7 = hex ++ ([' ', ' '] ++ text) := by
    have hsplit : line = (address ++ [' ', ' ']) ++ (hex ++ ([' ', ' '] ++ text)) := by
      simp only [line, List.append_assoc]
    rw [hsplit]
    exact List.drop_left' (by simp [haddress])
  refine ⟨?_, ?_, ?_⟩
  · rw [addressCells, hline]
    exact List.take_left' haddress
  · rw [hexCells, hbehind]
    exact List.take_left' hhex
  · exact List.drop_left' (by simp [haddress, hhex])

theorem shows_renderLine {address : Nat} (haddress : address < 16 ^ 5) {line : List UInt8}
    (hline : line.length ≤ 16) : Shows (renderLine address line).toList address line := by
  have hlength := length_hexColumn line
  have hread := readBytes?_hexColumn line (47 - (hexColumn line).toList.length)
  have haddressWidth := Text.Numeral.length_hex (show 0 < 5 by decide) haddress
  have hhexWidth : ((hexColumn line).toList ++
      List.replicate (47 - (hexColumn line).toList.length) ' ').length = 47 := by
    rw [List.length_append, List.length_replicate]
    omega
  rw [toList_renderLine]
  generalize (hexColumn line).toList ++ List.replicate _ ' ' = hex at hread hhexWidth ⊢
  obtain ⟨haddressCells, hhexCells, htextCells⟩ :=
    cells_of_columns haddressWidth hhexWidth (line.map glyph)
  refine ⟨?_, ?_, ?_, ?_, ?_, ?_⟩
  · rw [haddressCells, hhexCells, htextCells]
  · rw [haddressCells, haddressWidth]
  · rw [hhexCells, hhexWidth]
  · rw [haddressCells]
    exact Text.Numeral.digits_hex 5 address
  · rw [hhexCells, hread]
  · rw [htextCells, List.forall₂_map_right_iff, List.forall₂_same]
    exact fun b _ => pictures_glyph b

theorem newline_not_mem_of_readBytes? {cells : List Char} {bytes : List UInt8}
    (h : readBytes? cells = some bytes) : '\n' ∉ cells := by
  have hnone : digit '\n' = 16 := rfl
  fun_induction readBytes? cells generalizing bytes with
  | case1 => simp
  | case2 rest ih => simpa using ih h
  | case3 high low rest hblank hdigits ih =>
    obtain ⟨bytes', hrest, -⟩ := Option.map_eq_some_iff.mp h
    have hhigh : '\n' ≠ high := by
      rintro rfl
      omega
    have hlow : '\n' ≠ low := by
      rintro rfl
      omega
    simp [hhigh, hlow, ih hrest]
  | case4 => cases h
  | case5 => cases h

theorem newline_not_mem_of_pictures {bytes : List UInt8} {text : List Char}
    (h : List.Forall₂ Pictures bytes text) : '\n' ∉ text := by
  induction h with
  | nil => simp
  | cons hb _ ih => simp [hb.ne_newline.symm, ih]

/-- No line is broken: none of its characters ends it. -/
theorem Shows.newline_not_mem {line : List Char} {address : Nat} {bytes : List UInt8}
    (h : Shows line address bytes) : '\n' ∉ line := by
  have haddress : '\n' ∉ addressCells line := fun hmem =>
    Text.Numeral.not_digits_of_mem (by decide) rfl hmem h.address
  have hhex := newline_not_mem_of_readBytes? h.hex
  have htext := newline_not_mem_of_pictures h.text
  rw [h.columns]
  simp [haddress, hhex, htext]

/-- Each line shows its chunk of the data. -/
theorem shows_chunk {offset : Nat} {data : List UInt8} (hfits : offset + data.length ≤ Flash.size)
    {chunk : List UInt8} {i : Nat} (hchunk : (chunks data)[i]? = some chunk) :
    Shows (renderLine (offset + i * lineLength) chunk).toList (offset + 16 * i) chunk ∧
      chunk = (data.drop (16 * i)).take 16 := by
  rw [getElem?_chunks] at hchunk
  split at hchunk
  · next hinside =>
    obtain rfl := Option.some.inj hchunk
    have hsize : Flash.size = 131072 := rfl
    rw [lineLength, Nat.mul_comm i]
    exact ⟨shows_renderLine (by omega) (List.length_take_le 16 _), rfl⟩
  · cases hchunk

theorem length_render (offset : Nat) (data : List UInt8) :
    (render offset data).length = (data.length + 15) / 16 := by
  rw [render, List.length_map, List.length_zipIdx, length_chunks]

theorem shows_of_getElem? {offset : Nat} {data : List UInt8}
    (hfits : offset + data.length ≤ Flash.size) {i : Nat} {line : String}
    (hline : (render offset data)[i]? = some line) :
    Shows line.toList (offset + 16 * i) ((data.drop (16 * i)).take 16) := by
  rw [render, List.getElem?_map, List.getElem?_zipIdx, Option.map_map] at hline
  obtain ⟨chunk, hchunk, rfl⟩ := Option.map_eq_some_iff.mp hline
  obtain ⟨hshows, hdata⟩ := shows_chunk hfits hchunk
  rw [← hdata]
  simpa using hshows

private theorem mapM_map_eq_some {α β γ : Type} {f : α → β} {g : β → Option γ} {h : α → γ}
    {l : List α} (hall : ∀ a ∈ l, g (f a) = some (h a)) : (l.map f).mapM g = some (l.map h) := by
  induction l with
  | nil => rfl
  | cons a rest ih =>
    obtain ⟨ha, hrest⟩ := List.forall_mem_cons.mp hall
    rw [List.map_cons, List.mapM_cons, ha, ih hrest]
    rfl

theorem readDump?_render {offset : Nat} {data : List UInt8}
    (hfits : offset + data.length ≤ Flash.size) : readDump? (render offset data) = some data := by
  have hread : (render offset data).mapM (fun line => readBytes? (hexCells line.toList)) =
      some (chunks data) := by
    rw [render, mapM_map_eq_some (h := Prod.fst), List.zipIdx_map_fst]
    rintro ⟨chunk, i⟩ hmem
    exact (shows_chunk hfits (List.mem_zipIdx_iff_getElem?.mp hmem)).1.hex
  rw [readDump?, hread, Option.map_some, flatten_chunks]

/-- The lines are found again in what is on the console. -/
theorem splitOn_newline {lines : List (List Char)} (h : ∀ line ∈ lines, '\n' ∉ line) :
    (lines.flatMap (· ++ ['\n'])).splitOn '\n' = lines ++ [[]] := by
  induction lines with
  | nil => rfl
  | cons line rest ih =>
    obtain ⟨hline, hrest⟩ := List.forall_mem_cons.mp h
    rw [List.flatMap_cons, List.append_assoc, List.singleton_append,
      List.splitOn_append_cons_self_of_not_mem hline, ih hrest, List.cons_append]

theorem render_eq_of_printed_eq {offset offset' : Nat} {data data' : List UInt8}
    (hfits : offset + data.length ≤ Flash.size) (hfits' : offset' + data'.length ≤ Flash.size)
    (h : printed offset data = printed offset' data') :
    render offset data = render offset' data' := by
  have hlines {offset : Nat} {data : List UInt8} (hfits : offset + data.length ≤ Flash.size) :
      (printed offset data).toList.splitOn '\n' =
        (render offset data).map String.toList ++ [[]] := by
    have hprinted : (printed offset data).toList =
        ((render offset data).map String.toList).flatMap (· ++ ['\n']) := by
      rw [printed, String.toList_join, List.flatMap_map, List.flatMap_map]
      refine List.flatMap_congr fun line _ => ?_
      rw [String.toList_append]
      rfl
    rw [hprinted, splitOn_newline]
    intro line hline
    obtain ⟨text, htext, rfl⟩ := List.mem_map.mp hline
    obtain ⟨i, hi⟩ := List.mem_iff_getElem?.mp htext
    exact (shows_of_getElem? hfits hi).newline_not_mem
  have hsame := hlines hfits
  rw [h, hlines hfits'] at hsame
  exact (List.map_injective_iff.mpr fun _ _ => String.toList_inj.mp)
    (List.append_cancel_right hsame).symm

/-- The lines that `render` prints for a part of the flash determine its bytes and their address.
There is one line for every sixteen bytes and one for the rest. Line `i` starts with `offset + 16 *
i` in five hexadecimal digits, shows its bytes as pairs of digits in a column of fixed width and
then one character for each byte. `readDump?` reads the bytes back, and two dumps that print the
same have the same offset and the same bytes. -/
theorem dump_loses_nothing {offset : Nat} {data : List UInt8}
    (hfits : offset + data.length ≤ Flash.size) :
    (render offset data).length = (data.length + 15) / 16 ∧
    (∀ i line, (render offset data)[i]? = some line →
      Shows line.toList (offset + 16 * i) ((data.drop (16 * i)).take 16)) ∧
    readDump? (render offset data) = some data ∧
    ∀ offset' data', offset' + data'.length ≤ Flash.size → data ≠ [] →
      printed offset data = printed offset' data' → offset = offset' ∧ data = data' := by
  refine ⟨length_render offset data, fun i line => shows_of_getElem? hfits,
    readDump?_render hfits, ?_⟩
  intro offset' data' hfits' hsome hprinted
  have hrender := render_eq_of_printed_eq hfits hfits' hprinted
  have hdata : data = data' := by
    have hread := readDump?_render hfits
    rw [hrender, readDump?_render hfits'] at hread
    exact (Option.some.inj hread).symm
  obtain ⟨line, hline⟩ : ∃ line, (render offset data)[0]? = some line := by
    have hlength := List.length_pos_iff.mpr hsome
    refine ⟨_, List.getElem?_eq_getElem ?_⟩
    rw [length_render]
    omega
  have haddress := (shows_of_getElem? hfits hline).address
  have haddress' := (shows_of_getElem? hfits' (hrender ▸ hline)).address
  exact ⟨haddress.value_eq.symm.trans haddress'.value_eq, hdata⟩

/-- At the end of the flash, a point and a line feed: they look alike among the characters, and yet
the dumps differ. -/
theorem lookalikes_dumped :
    (131071 + [0x2E].length ≤ Flash.size ∧ 131071 + [0x0A].length ≤ Flash.size ∧
      ([0x2E] : List UInt8) ≠ []) ∧
    textColumn [0x2E] = textColumn [0x0A] ∧
    readDump? (render 131071 [0x2E]) = some [0x2E] ∧
    printed 131071 [0x2E] ≠ printed 131071 [0x0A] := by
  have hfits : 131071 + ([0x2E] : List UInt8).length ≤ Flash.size := by decide
  have hfits' : 131071 + ([0x0A] : List UInt8).length ≤ Flash.size := by decide
  obtain ⟨-, -, hread, honly⟩ := dump_loses_nothing hfits
  refine ⟨⟨hfits, hfits', by decide⟩, by decide, hread, ?_⟩
  intro hprinted
  have hdata := (honly 131071 [0x0A] hfits' (by decide) hprinted).2
  exact absurd hdata (by decide)

end Spectrometer.HexDump
