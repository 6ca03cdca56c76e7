import Mathlib.Data.List.Nodup
import Spectrometer.Catalog
import Spectrometer.Proofs.Text.Split

/-!
Driver strings as a user writes them. `parse` is determined by the parts between the commas: the
first part without an equals sign is the error, otherwise the last part for a key is its value. So a
name and a map that are written down are read back, however the entries are ordered.
-/

namespace Spectrometer.DriverString

/-- The parts of what is written behind the name, if anything is. -/
def parts (s : String) : List (List Char) :=
  if Text.behind ':' s.toList = [] then [] else (Text.behind ':' s.toList).splitOn ','

/-- The key and the value that a part of the options gives. -/
def entry (part : List Char) : String × String :=
  (String.ofList (Text.upTo '=' part), String.ofList (Text.behind '=' part))

/-- The first part that gives no key a value. -/
def malformed? (parts : List (List Char)) : Option (List Char) := parts.find? fun part => '=' ∉ part

/-- The options after entries were inserted one after the other. -/
def insertAll (options entries : List (String × String)) : List (String × String) :=
  entries.foldl (fun options e => insert options e.1 e.2) options

/-- A name and options the way a user writes them. -/
def written (name : String) (entries : List (String × String)) : String :=
  name ++ ":" ++ ",".intercalate (entries.map fun e => e.1 ++ "=" ++ e.2)

section Options

variable {options entries : List (String × String)} {key value : String}

theorem lookup_insert (options : List (String × String)) (key value key' : String) :
    (insert options key value).lookup key' =
      if key' = key then some value else options.lookup key' := by
  have hfilter : (options.filter (·.1 ≠ key)).lookup key' =
      if key' = key then none else options.lookup key' := by
    induction options with
    | nil => simp
    | cons e rest ih =>
      rw [List.filter_cons, List.lookup_cons]
      grind
  rw [insert, List.lookup_append, hfilter, List.lookup_singleton]
  split <;> simp_all

theorem nodup_insert (h : (options.map Prod.fst).Nodup) :
    ((insert options key value).map Prod.fst).Nodup := by
  have hkept : ((options.filter (·.1 ≠ key)).map Prod.fst).Nodup :=
    h.sublist (List.filter_sublist.map Prod.fst)
  rw [insert, List.map_append]
  refine hkept.append (List.nodup_singleton key) ?_
  simp

theorem insert_of_new (h : key ∉ options.map Prod.fst) :
    insert options key value = options ++ [(key, value)] := by
  have hall : options.filter (·.1 ≠ key) = options := by
    rw [List.filter_eq_self]
    intro e he
    exact decide_eq_true fun heq => h (heq ▸ List.mem_map_of_mem he)
  rw [insert, hall]

/-- The last entry for a key decides on its value. -/
theorem lookup_insertAll (options entries : List (String × String)) (key : String) :
    (insertAll options entries).lookup key =
      (entries.reverse.lookup key).or (options.lookup key) := by
  induction entries generalizing options with
  | nil => rfl
  | cons e rest ih =>
    rw [insertAll, List.foldl_cons, ← insertAll, ih, lookup_insert, List.reverse_cons,
      List.lookup_append, List.lookup_singleton, Option.or_assoc]
    congr 1
    split <;> simp_all

theorem nodup_insertAll (h : (options.map Prod.fst).Nodup) :
    ((insertAll options entries).map Prod.fst).Nodup := by
  induction entries generalizing options with
  | nil => exact h
  | cons e rest ih => exact ih (nodup_insert h)

/-- Entries for keys that are all new stay as they are. -/
theorem insertAll_of_new (h : ((options ++ entries).map Prod.fst).Nodup) :
    insertAll options entries = options ++ entries := by
  induction entries generalizing options with
  | nil => simp [insertAll]
  | cons e rest ih =>
    have hnew : e.1 ∉ options.map Prod.fst := by
      rw [List.map_append, List.map_cons, List.nodup_append] at h
      intro hmem
      exact h.2.2 e.1 hmem e.1 List.mem_cons_self rfl
    rw [insertAll, List.foldl_cons, ← insertAll, insert_of_new hnew, ih]
    · rw [List.append_assoc, List.singleton_append]
    · rwa [List.append_assoc, List.singleton_append]

theorem lookup_eq_some_iff_mem (h : (entries.map Prod.fst).Nodup) :
    entries.lookup key = some value ↔ (key, value) ∈ entries := by
  induction entries with
  | nil => simp
  | cons e rest ih =>
    obtain ⟨hnew, hrest⟩ := List.nodup_cons.mp h
    rw [List.lookup_cons, List.mem_cons]
    grind

end Options

theorem readOptions_eq (options : List (String × String)) (parts : List (List Char)) :
    readOptions options parts =
      match malformed? parts with
      | some part => .error (.malformedOption (String.ofList part))
      | none => .ok (insertAll options (parts.map entry)) := by
  induction parts generalizing options with
  | nil => rfl
  | cons part rest ih =>
    rw [readOptions, Text.cut?_eq, malformed?, List.find?_cons]
    by_cases hcut : '=' ∈ part
    · rw [if_pos hcut, decide_eq_false (not_not.mpr hcut)]
      exact ih _
    · rw [if_neg hcut, decide_eq_true hcut]

/-- What a driver string says, by its parts. -/
theorem parse_eq (s : String) :
    parse s =
      match malformed? (parts s) with
      | some part => .error (.malformedOption (String.ofList part))
      | none =>
        .ok ⟨String.ofList (Text.upTo ':' s.toList), insertAll [] ((parts s).map entry)⟩ := by
  unfold parse parts
  rw [Text.cut?_eq]
  by_cases hname : ':' ∈ s.toList
  · rw [if_pos hname]
    cases hbehind : Text.behind ':' s.toList with
    | nil => rfl
    | cons c rest =>
      simp only [Text.pieces_eq_splitOn, readOptions_eq]
      rw [if_neg (List.cons_ne_nil c rest)]
      cases malformed? ((c :: rest).splitOn ',') <;> rfl
  · rw [if_neg hname, Text.behind_of_not_mem hname, Text.upTo_of_not_mem hname,
      String.ofList_toList]
    rfl

theorem malformed?_eq_none_iff {parts : List (List Char)} :
    malformed? parts = none ↔ ∀ part ∈ parts, '=' ∈ part := by
  simp [malformed?]

theorem exists_parse_iff {s : String} :
    (∃ d, parse s = .ok d) ↔ ∀ part ∈ parts s, '=' ∈ part := by
  rw [parse_eq, ← malformed?_eq_none_iff]
  cases malformed? (parts s) <;> simp

/-- An entry as it stands between the commas. -/
def entryText (e : String × String) : List Char := e.1.toList ++ '=' :: e.2.toList

theorem toList_written (name : String) (entries : List (String × String)) :
    (written name entries).toList =
      name.toList ++ ':' :: [','].intercalate (entries.map entryText) := by
  have htexts : (entries.map fun e => e.1 ++ "=" ++ e.2).map String.toList =
      entries.map entryText := by
    rw [List.map_map]
    refine List.map_congr_left fun e _ => ?_
    simp [entryText]
  simp only [written, String.toList_append, String.toList_intercalate, htexts]
  simp

theorem entry_entryText {e : String × String} (hkey : '=' ∉ e.1.toList) :
    entry (entryText e) = e := by
  rw [entry, entryText, Text.upTo_append hkey, Text.behind_append hkey, String.ofList_toList,
    String.ofList_toList]

theorem parts_written {name : String} {entries : List (String × String)}
    (hname : ':' ∉ name.toList)
    (hentries : ∀ e ∈ entries, ',' ∉ e.1.toList ∧ ',' ∉ e.2.toList) :
    parts (written name entries) = entries.map entryText := by
  rw [parts, toList_written, Text.behind_append hname]
  cases entries with
  | nil => rfl
  | cons e rest =>
    have hsplit : ([','].intercalate ((e :: rest).map entryText)).splitOn ',' =
        (e :: rest).map entryText := by
      refine List.splitOn_intercalate ',' ?_ (List.cons_ne_nil _ _)
      intro text htext
      obtain ⟨e', he', rfl⟩ := List.mem_map.mp htext
      obtain ⟨hkey, hvalue⟩ := hentries e' he'
      simp [entryText, hkey, hvalue]
    rw [if_neg, hsplit]
    intro hempty
    rw [hempty, List.splitOn_nil, List.map_cons] at hsplit
    simp [entryText] at hsplit

/-- What is written is read back as it was, if each key stands once and no separator is where it
would be taken for one. -/
theorem parse_written {name : String} {entries : List (String × String)}
    (hname : ':' ∉ name.toList) (honce : (entries.map Prod.fst).Nodup)
    (hentries : ∀ e ∈ entries, '=' ∉ e.1.toList ∧ ',' ∉ e.1.toList ∧ ',' ∉ e.2.toList) :
    parse (written name entries) = .ok ⟨name, entries⟩ := by
  have hparts := parts_written hname fun e he => (hentries e he).2
  have hformed : malformed? (entries.map entryText) = none := by
    rw [malformed?_eq_none_iff]
    intro part hpart
    obtain ⟨e, -, rfl⟩ := List.mem_map.mp hpart
    simp [entryText]
  have hback : (entries.map entryText).map entry = entries := by
    rw [List.map_map]
    exact (List.map_congr_left fun e he => entry_entryText (hentries e he).1).trans
      (List.map_id entries)
  have hoptions : insertAll [] entries = [] ++ entries := insertAll_of_new honce
  simp only [parse_eq, hparts, hformed, hback, hoptions, List.nil_append]
  rw [toList_written, Text.upTo_append hname, String.ofList_toList]

/-- `parse` accepts a driver string if and only if nothing follows its first colon or every part
between the commas that follow contains an equals sign. The result has the text before the colon as
its name, distinct keys, and for each key the value of its last part, cut at the first equals sign.
An error quotes the first part without one. A name without a colon and a map whose keys contain no
comma or equals sign and whose values contain no comma are parsed back from any order of their
entries. -/
theorem parse_reads_parts :
    (∀ s, (∃ d, parse s = .ok d) ↔
      ':' ∉ s.toList ∨ Text.behind ':' s.toList = [] ∨
        ∀ part ∈ (Text.behind ':' s.toList).splitOn ',', '=' ∈ part) ∧
    (∀ s d, parse s = .ok d →
      d.name = String.ofList (Text.upTo ':' s.toList) ∧ (d.options.map Prod.fst).Nodup ∧
        ∀ key, d.get? key = ((parts s).map entry).reverse.lookup key) ∧
    (∀ s e, parse s = .error e → ∃ part, (parts s).find? (fun part => '=' ∉ part) = some part ∧
      e.message = "Invalid parameter format: '" ++ String.ofList part ++
        "' (expected key=value)") ∧
    ∀ (name : String) (entries : List (String × String)), ':' ∉ name.toList →
      (entries.map Prod.fst).Nodup →
      (∀ e ∈ entries, '=' ∉ e.1.toList ∧ ',' ∉ e.1.toList ∧ ',' ∉ e.2.toList) →
      ∀ order, order.Perm entries → ∃ d, parse (written name order) = .ok d ∧ d.name = name ∧
        ∀ key value, d.get? key = some value ↔ (key, value) ∈ entries := by
  refine ⟨?_, ?_, ?_, ?_⟩
  · intro s
    rw [exists_parse_iff, parts]
    by_cases hname : ':' ∈ s.toList
    · by_cases hbehind : Text.behind ':' s.toList = []
      · simp [hbehind]
      · simp [hname, hbehind]
    · simp [hname, Text.behind_of_not_mem hname]
  · intro s d hparse
    rw [parse_eq] at hparse
    split at hparse
    · cases hparse
    · cases hparse
      refine ⟨rfl, nodup_insertAll List.nodup_nil, fun key => ?_⟩
      rw [get?, lookup_insertAll, List.lookup_nil, Option.or_none]
  · intro s e hparse
    rw [parse_eq] at hparse
    split at hparse
    · next part hpart =>
      cases hparse
      exact ⟨part, hpart, rfl⟩
    · cases hparse
  · intro name entries hname honce hentries order horder
    have honce' : (order.map Prod.fst).Nodup := (horder.map Prod.fst).nodup_iff.mpr honce
    refine ⟨⟨name, order⟩, ?_, rfl, ?_⟩
    · exact parse_written hname honce' fun e he => hentries e (horder.mem_iff.mp he)
    · intro key value
      rw [get?, lookup_eq_some_iff_mem honce', horder.mem_iff]

/-- Values with separators of their own and an empty key are read back from either order. -/
theorem twisted_options_read_back :
    let entries := [("", "a=b:c"), ("k", "")]
    (':' ∉ "dummy".toList ∧ (entries.map Prod.fst).Nodup ∧
      (∀ e ∈ entries, '=' ∉ e.1.toList ∧ ',' ∉ e.1.toList ∧ ',' ∉ e.2.toList) ∧
      entries.reverse.Perm entries) ∧
    written "dummy" entries.reverse = "dummy:k=,=a=b:c" ∧
    ∃ d, parse "dummy:k=,=a=b:c" = .ok d ∧ d.name = "dummy" ∧ d.get? "" = some "a=b:c" := by
  intro entries
  have hname : ':' ∉ "dummy".toList := by decide
  have honce : (entries.map Prod.fst).Nodup := by decide
  have hentries : ∀ e ∈ entries, '=' ∉ e.1.toList ∧ ',' ∉ e.1.toList ∧ ',' ∉ e.2.toList := by
    decide
  have horder : entries.reverse.Perm entries := List.reverse_perm entries
  have hwritten : written "dummy" entries.reverse = "dummy:k=,=a=b:c" := by decide
  obtain ⟨d, hparse, hd, hget⟩ :=
    parse_reads_parts.2.2.2 "dummy" entries hname honce hentries entries.reverse horder
  exact ⟨⟨hname, honce, hentries, horder⟩, hwritten, d, hwritten ▸ hparse, hd,
    (hget "" "a=b:c").mpr (by decide)⟩

end Spectrometer.DriverString
