import Admission.Text.Blank

/-!
Comma-separated values. A value is cut at every comma; `pieces` are the trimmed parts and `items`
those of them that are not blank.
-/

namespace Admission.Text

/-- Cuts at every `sep`, which leaves one part more than there are separators. -/
def cutAt (sep : Char) : List Char → List (List Char)
  | [] => [[]]
  | c :: cs =>
    if c = sep then [] :: cutAt sep cs
    else
      match cutAt sep cs with
      | [] => [[c]]
      | part :: parts => (c :: part) :: parts

/-- The comma-separated parts, each trimmed; a part may be empty. -/
def pieces (s : String) : List String :=
  (cutAt ',' s.toList).map fun part => String.ofList (trimChars part)

def items (s : String) : List String := (pieces s).filter (· ≠ "")

theorem cutAt_ne_nil (sep : Char) (cs : List Char) : cutAt sep cs ≠ [] := by
  cases cs with
  | nil => simp [cutAt]
  | cons c cs =>
    by_cases h : c = sep
    · simp [cutAt, h]
    · simp only [cutAt, h, if_false]
      split <;> simp

/-- Cutting two texts joined by a separator is cutting each of them. -/
theorem cutAt_append_sep (sep : Char) (xs ys : List Char) :
    cutAt sep (xs ++ sep :: ys) = cutAt sep xs ++ cutAt sep ys := by
  induction xs with
  | nil => simp [cutAt]
  | cons c cs ih =>
    by_cases h : c = sep
    · simp [cutAt, h, ih]
    · have hne := cutAt_ne_nil sep cs
      simp only [List.cons_append, cutAt, h, if_false, ih]
      cases hc : cutAt sep cs with
      | nil => exact absurd hc hne
      | cons part parts => simp

theorem mem_items {s item : String} : item ∈ items s ↔ item ∈ pieces s ∧ item ≠ "" := by
  simp [items]

end Admission.Text
