import Mathlib.Data.List.TakeWhile
import Spectrometer.Text.Split

/-!
Cutting against the library's list functions. A text is cut once into what comes before its first
separator and what comes behind it, and cutting it everywhere is `List.splitOn`.
-/

namespace Spectrometer.Text

variable {sep : Char} {before : List Char}

/-- A text up to its first separator, all of it if there is none. -/
def upTo (sep : Char) (s : List Char) : List Char := s.takeWhile (· ≠ sep)

/-- What comes behind the first separator of a text, nothing if there is none. -/
def behind (sep : Char) (s : List Char) : List Char := (s.dropWhile (· ≠ sep)).drop 1

private theorem all_ne (h : sep ∉ before) : ∀ c ∈ before, decide (c ≠ sep) = true :=
  fun _ hc => decide_eq_true fun heq => h (heq ▸ hc)

theorem upTo_append (h : sep ∉ before) (after : List Char) :
    upTo sep (before ++ sep :: after) = before := by
  rw [upTo, List.takeWhile_append_of_pos (all_ne h), List.takeWhile_cons_of_neg (by simp),
    List.append_nil]

theorem behind_append (h : sep ∉ before) (after : List Char) :
    behind sep (before ++ sep :: after) = after := by
  rw [behind, List.dropWhile_append_of_pos (all_ne h), List.dropWhile_cons_of_neg (by simp),
    List.drop_one, List.tail_cons]

theorem upTo_of_not_mem (h : sep ∉ before) : upTo sep before = before :=
  List.takeWhile_eq_self_iff.mpr (all_ne h)

theorem behind_of_not_mem (h : sep ∉ before) : behind sep before = [] := by
  rw [behind, List.dropWhile_eq_nil_iff.mpr (all_ne h), List.drop_nil]

theorem cut?_eq (sep : Char) (s : List Char) :
    cut? sep s = if sep ∈ s then some (upTo sep s, behind sep s) else none := by
  induction s with
  | nil => rfl
  | cons c rest ih =>
    rw [cut?]
    by_cases hc : c = sep
    · subst hc
      simp [upTo, behind]
    · have hsep : ¬ sep = c := fun heq => hc heq.symm
      rw [if_neg hc, ih]
      by_cases hrest : sep ∈ rest
      · simp [upTo, behind, hc, hrest]
      · simp [hsep, hrest]

theorem pieces_eq_splitOn (sep : Char) (s : List Char) : pieces sep s = s.splitOn sep := by
  induction s with
  | nil => rfl
  | cons c rest ih =>
    rw [pieces, List.splitOn_cons_eq_if_modifyHead, ih]
    by_cases hc : c = sep
    · simp [hc]
    · rw [if_neg hc, if_neg (by simpa using hc)]
      cases hparts : rest.splitOn sep with
      | nil => simp at hparts
      | cons part parts => rfl

end Spectrometer.Text
