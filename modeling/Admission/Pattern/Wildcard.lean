/-!
Regular expressions as the settings use them: texts that an engine takes or refuses, and those that
stand for values with wildcards. A question mark stands for one character, an asterisk for any run of
them, and the expression is anchored at both ends. A value without wildcards is taken over as it is.
-/

namespace Admission

namespace Pattern

/-- An engine of regular expressions, known by the texts that it takes. Its syntax and its limits on
the size of what it compiles are its own. -/
class Engine where
  accepts (pattern : String) : Bool

def isWildcard (c : Char) : Bool := c = '?' || c = '*'

/-- What stands in a pattern for one character of a value with wildcards. -/
def wildcardPiece (c : Char) : List Char :=
  match c with
  | '.' => ['\\', '.']
  | '?' => ['.']
  | '*' => ['.', '*']
  | c => [c]

def wildcardBody (cs : List Char) : List Char :=
  if cs.any isWildcard then cs.flatMap wildcardPiece else cs

def ofWildcard (s : String) : String :=
  String.ofList ('^' :: (wildcardBody s.toList ++ ['$']))

end Pattern

/-- A name is one of those that a value with wildcards stands for: a question mark stands for one
character, an asterisk for any run of them, and every other character for itself. -/
inductive Wildcard : List Char → List Char → Prop
  | nil : Wildcard [] []
  | one (c : Char) {value name : List Char} (h : Wildcard value name) :
    Wildcard ('?' :: value) (c :: name)
  | run (front : List Char) {value name : List Char} (h : Wildcard value name) :
    Wildcard ('*' :: value) (front ++ name)
  | same {c : Char} (hc : Pattern.isWildcard c = false) {value name : List Char}
    (h : Wildcard value name) : Wildcard (c :: value) (c :: name)

/-- A value without wildcards stands for itself alone. -/
theorem wildcard_iff_eq {value name : List Char} (h : ∀ c ∈ value, Pattern.isWildcard c = false) :
    Wildcard value name ↔ name = value := by
  constructor
  · intro hname
    induction hname with
    | nil => rfl
    | one => cases h '?' List.mem_cons_self
    | run => cases h '*' List.mem_cons_self
    | same _ _ ih => rw [ih fun c hc => h c (List.mem_cons_of_mem _ hc)]
  · rintro rfl
    induction name with
    | nil => exact .nil
    | cons c name ih =>
      rw [List.forall_mem_cons] at h
      exact .same h.1 (ih h.2)

end Admission
