/-!
Blank characters (the Unicode property White_Space) and trimming. Main statements: a trimmed text
neither begins nor ends with a blank, and trimming takes away blanks only.
-/

namespace Admission.Text

/-- The characters with the property White_Space. -/
def isBlank (c : Char) : Bool :=
  let n := c.toNat
  (0x09 ≤ n && n ≤ 0x0D) || n == 0x20 || n == 0x85 || n == 0xA0 || n == 0x1680 ||
    (0x2000 ≤ n && n ≤ 0x200A) || n == 0x2028 || n == 0x2029 || n == 0x202F || n == 0x205F ||
    n == 0x3000

def trimStart (cs : List Char) : List Char := cs.dropWhile isBlank

def trimEnd (cs : List Char) : List Char := (cs.reverse.dropWhile isBlank).reverse

def trimChars (cs : List Char) : List Char := trimEnd (trimStart cs)

def trim (s : String) : String := String.ofList (trimChars s.toList)

theorem toList_trim (s : String) : (trim s).toList = trimChars s.toList := by
  simp [trim]

theorem head?_trimStart {cs : List Char} {c : Char} (h : (trimStart cs).head? = some c) :
    isBlank c = false := by
  have := List.head?_dropWhile_not isBlank cs
  simp only [trimStart] at h
  simpa [h] using this

theorem getLast?_trimEnd {cs : List Char} {c : Char} (h : (trimEnd cs).getLast? = some c) :
    isBlank c = false := by
  have h' : (trimStart cs.reverse).head? = some c := by simpa [trimEnd, trimStart] using h
  exact head?_trimStart h'

/-- Nothing but blanks was in front of what is kept. -/
theorem exists_append_trimStart (cs : List Char) :
    ∃ front, (∀ c ∈ front, isBlank c = true) ∧ cs = front ++ trimStart cs :=
  ⟨cs.takeWhile isBlank, fun c hc => List.all_eq_true.1 List.all_takeWhile c hc,
    List.takeWhile_append_dropWhile.symm⟩

/-- Nothing but blanks was behind what is kept. -/
theorem exists_trimEnd_append (cs : List Char) :
    ∃ back, (∀ c ∈ back, isBlank c = true) ∧ cs = trimEnd cs ++ back := by
  obtain ⟨front, hfront, heq⟩ := exists_append_trimStart cs.reverse
  refine ⟨front.reverse, fun c hc => hfront c (List.mem_reverse.1 hc), ?_⟩
  have := congrArg List.reverse heq
  simpa [trimEnd, trimStart] using this

/-- Nothing but blanks was around what is kept. -/
theorem exists_trimChars (cs : List Char) :
    ∃ front back, (∀ c ∈ front, isBlank c = true) ∧ (∀ c ∈ back, isBlank c = true) ∧
      cs = front ++ trimChars cs ++ back := by
  obtain ⟨front, hfront, hstart⟩ := exists_append_trimStart cs
  obtain ⟨back, hback, hend⟩ := exists_trimEnd_append (trimStart cs)
  refine ⟨front, back, hfront, hback, ?_⟩
  rw [List.append_assoc, trimChars, ← hend, ← hstart]

theorem trimStart_append {front : List Char} (h : ∀ c ∈ front, isBlank c = true)
    (cs : List Char) : trimStart (front ++ cs) = trimStart cs :=
  List.dropWhile_append_of_pos h

theorem trimStart_eq_self {cs : List Char} (h : ∀ c ∈ cs.head?, isBlank c = false) :
    trimStart cs = cs := by
  cases cs with
  | nil => rfl
  | cons c cs =>
    have hc : isBlank c = false := h c rfl
    exact List.dropWhile_cons_of_neg (by simp [hc])

/-- What stands between blanks and neither begins nor ends with one is what trimming leaves. -/
theorem trimChars_append {front word back : List Char} (hfront : ∀ c ∈ front, isBlank c = true)
    (hback : ∀ c ∈ back, isBlank c = true) (hhead : ∀ c ∈ word.head?, isBlank c = false)
    (hlast : ∀ c ∈ word.getLast?, isBlank c = false) :
    trimChars (front ++ word ++ back) = word := by
  -- The end of a text is trimmed as the beginning of the reversed one.
  have hend (cs : List Char) : trimEnd cs = (trimStart cs.reverse).reverse := rfl
  have hback' : ∀ c ∈ back.reverse, isBlank c = true := fun c hc => hback c (List.mem_reverse.1 hc)
  unfold trimChars
  rw [List.append_assoc, trimStart_append hfront]
  cases word with
  | nil =>
    have hnone := trimStart_append hback []
    rw [List.append_nil] at hnone
    rw [List.nil_append, hnone]
    rfl
  | cons c cs =>
    have hstart : trimStart (c :: cs ++ back) = c :: cs ++ back := trimStart_eq_self hhead
    rw [← List.head?_reverse] at hlast
    rw [hstart, hend, List.reverse_append, trimStart_append hback', trimStart_eq_self hlast,
      List.reverse_reverse]

end Admission.Text
