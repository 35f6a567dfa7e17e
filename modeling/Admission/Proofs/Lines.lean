import Admission.Yaml.Cursor

/-!
Lines of a text, and the marks that some of them begin with. Main statements: a text that is walked
through without a mark has no line that begins with three dashes, whichever breaks end its lines; and
the lines of two texts, of which the first ends a line, are those of the one and then those of the
other.
-/

namespace Admission

namespace Text

/-- Cuts a text into its lines. Each keeps the character that ends it; the last one may have none. -/
def lines (isEnd : Char → Bool) : List Char → List (List Char)
  | [] => []
  | c :: cs =>
    if isEnd c then [c] :: lines isEnd cs
    else
      match lines isEnd cs with
      | [] => [[c]]
      | line :: rest => (c :: line) :: rest

variable {isEnd : Char → Bool}

theorem lines_cons_end {c : Char} (hc : isEnd c = true) (cs : List Char) :
    lines isEnd (c :: cs) = [c] :: lines isEnd cs := by
  rw [lines, if_pos hc]

/-- A character that ends no line joins the line behind it, if there is one. -/
theorem lines_cons {c : Char} (hc : isEnd c = false) (cs : List Char) :
    lines isEnd (c :: cs) =
      (c :: (lines isEnd cs).head?.getD []) :: (lines isEnd cs).tail := by
  have hc' : ¬ isEnd c = true := by simp [hc]
  rw [lines, if_neg hc']
  cases lines isEnd cs <;> rfl

/-- No character gets lost. -/
theorem flatten_lines (isEnd : Char → Bool) (cs : List Char) : (lines isEnd cs).flatten = cs := by
  induction cs with
  | nil => rfl
  | cons c cs ih =>
    cases hc : isEnd c with
    | true => rw [lines_cons_end hc, List.flatten_cons, ih, List.singleton_append]
    | false =>
      rw [lines_cons hc]
      cases hlines : lines isEnd cs with
      | nil =>
        rw [hlines] at ih
        simp [← ih]
      | cons line rest =>
        rw [hlines] at ih
        simp [← ih]

theorem lines_eq_nil {cs : List Char} : lines isEnd cs = [] ↔ cs = [] := by
  constructor
  · intro h
    rw [← flatten_lines isEnd cs, h, List.flatten_nil]
  · rintro rfl
    rfl

/-- Behind the end of a line, the lines are cut as if nothing was in front. -/
theorem lines_append {front : List Char} (h : ∀ c ∈ front.getLast?, isEnd c = true)
    (back : List Char) : lines isEnd (front ++ back) = lines isEnd front ++ lines isEnd back := by
  induction front with
  | nil => rfl
  | cons c cs ih =>
    have hcs : ∀ last ∈ cs.getLast?, isEnd last = true := by
      intro last hlast
      refine h last ?_
      rw [List.getLast?_cons, Option.mem_def.1 hlast]
      rfl
    have ih := ih hcs
    cases hc : isEnd c with
    | true => rw [List.cons_append, lines_cons_end hc, lines_cons_end hc, ih, List.cons_append]
    | false =>
      -- A character that ends no line is not the last one in front.
      have hne : lines isEnd cs ≠ [] := by
        intro hnil
        have hlast := h c (by rw [lines_eq_nil.1 hnil]; rfl)
        rw [hc] at hlast
        cases hlast
      obtain ⟨line, rest, hlines⟩ := List.exists_cons_of_ne_nil hne
      rw [List.cons_append, lines_cons hc, lines_cons hc, ih, hlines]
      rfl

end Text

namespace Yaml

/-- Where a text stands in its lines, as far as a mark of three dashes is concerned. -/
inductive LinePlace
  /-- At the start of a line, behind a line feed or behind another break. -/
  | lineStart (isFed : Bool)
  /-- Behind a dash, or two, that the line begins with. -/
  | dash
  | dashes
  /-- Further on in a line that does not begin with a mark. -/
  | inLine
  /-- Somewhere behind a mark. -/
  | marked
  deriving DecidableEq, Repr

namespace LinePlace

def step (place : LinePlace) (c : Char) : LinePlace :=
  match place with
  | marked => marked
  | lineStart _ => if isBreak c then lineStart (c = '\n') else if c = '-' then dash else inLine
  | dash => if isBreak c then lineStart (c = '\n') else if c = '-' then dashes else inLine
  | dashes => if isBreak c then lineStart (c = '\n') else if c = '-' then marked else inLine
  | inLine => if isBreak c then lineStart (c = '\n') else inLine

def walk (place : LinePlace) (cs : List Char) : LinePlace := cs.foldl step place

@[simp] theorem walk_nil (place : LinePlace) : place.walk [] = place := rfl

@[simp] theorem walk_cons (place : LinePlace) (c : Char) (cs : List Char) :
    place.walk (c :: cs) = (place.step c).walk cs := rfl

theorem walk_append (place : LinePlace) (front back : List Char) :
    place.walk (front ++ back) = (place.walk front).walk back := List.foldl_append

theorem step_break {place : LinePlace} (hplace : place ≠ marked) {c : Char}
    (hc : isBreak c = true) : place.step c = lineStart (c = '\n') := by
  cases place with
  | marked => exact absurd rfl hplace
  | _ => simp [step, hc]

theorem step_inLine {c : Char} (hc : isBreak c = false) : inLine.step c = inLine := by
  simp [step, hc]

/-- A line that begins with another character than a dash has no mark. -/
theorem step_lineStart {c : Char} (hc : isBreak c = false) (hdash : c ≠ '-') (isFed : Bool) :
    (lineStart isFed).step c = inLine := by
  simp [step, hc, hdash]

/-- No text leads back from behind a mark. -/
theorem walk_marked (cs : List Char) : marked.walk cs = marked := by
  induction cs with
  | nil => rfl
  | cons c cs ih => exact ih

theorem ne_marked_of_walk {place : LinePlace} {cs : List Char} (h : place.walk cs ≠ marked) :
    place ≠ marked := by
  rintro rfl
  exact h (walk_marked cs)

/-- A text without breaks stays in its line. -/
theorem walk_inLine {cs : List Char} (h : ∀ c ∈ cs, isBreak c = false) :
    inLine.walk cs = inLine := by
  induction cs with
  | nil => rfl
  | cons c cs ih =>
    rw [List.forall_mem_cons] at h
    rw [walk_cons, step_inLine h.1, ih h.2]

/-- A line that begins with three dashes is behind a mark. -/
theorem walk_lineStart_mark (isFed : Bool) {line : List Char}
    (h : ['-', '-', '-'].isPrefixOf line = true) : (lineStart isFed).walk line = marked := by
  obtain ⟨rest, rfl⟩ := List.isPrefixOf_iff_prefix.1 h
  rw [walk_append]
  exact walk_marked rest

/-- What holds of the first line and of the others holds of all. -/
theorem forall_mem_of_head_tail {p : List Char → Prop} {lines : List (List Char)}
    (hhead : p (lines.head?.getD [])) (htail : ∀ line ∈ lines.tail, p line) :
    ∀ line ∈ lines, p line := by
  cases lines with
  | nil => exact nofun
  | cons first rest => exact List.forall_mem_cons.2 ⟨hhead, htail⟩

/-- Without a mark in the text there is none in a line of it: neither in the one that it goes on
with, nor in one that begins in it. -/
theorem walk_lines {isEnd : Char → Bool} (hend : ∀ c, isEnd c = true → isBreak c = true)
    {place : LinePlace} {cs : List Char} (h : place.walk cs ≠ marked) :
    place.walk ((Text.lines isEnd cs).head?.getD []) ≠ marked ∧
      ∀ line ∈ (Text.lines isEnd cs).tail, ∃ isFed, (lineStart isFed).walk line ≠ marked := by
  induction cs generalizing place with
  | nil => exact ⟨h, by simp [Text.lines]⟩
  | cons c cs ih =>
    have hplace := ne_marked_of_walk h
    obtain ⟨hhead, htail⟩ := ih h
    cases hc : isEnd c with
    | true =>
      rw [Text.lines_cons_end hc]
      rw [step_break hplace (hend c hc)] at hhead
      exact ⟨ne_marked_of_walk h, forall_mem_of_head_tail ⟨_, hhead⟩ htail⟩
    | false =>
      rw [Text.lines_cons hc]
      exact ⟨hhead, htail⟩

/-- A text that is walked through from the start of a line without a mark has no line that begins
with one. -/
theorem isPrefixOf_line {isEnd : Char → Bool} (hend : ∀ c, isEnd c = true → isBreak c = true)
    {isFed : Bool} {cs : List Char} (h : (lineStart isFed).walk cs ≠ marked) :
    ∀ line ∈ Text.lines isEnd cs, ['-', '-', '-'].isPrefixOf line = false := by
  obtain ⟨hhead, htail⟩ := walk_lines hend h
  intro line hline
  obtain ⟨behind, hwalk⟩ : ∃ isFed, (lineStart isFed).walk line ≠ marked :=
    forall_mem_of_head_tail ⟨isFed, hhead⟩ htail line hline
  exact Bool.eq_false_iff.2 fun hmark => hwalk (walk_lineStart_mark behind hmark)

end LinePlace
end Yaml
end Admission
