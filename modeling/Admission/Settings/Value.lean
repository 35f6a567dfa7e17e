import Admission.Criterion
import Admission.Settings.Fault

namespace Admission.Settings

/-- The literals of the two truth values. They stand alone, with no blank around them. -/
def trueLiterals : List String := ["1", "t", "T", "TRUE", "true", "True"]
def falseLiterals : List String := ["0", "f", "F", "FALSE", "false", "False"]

def boolean (value : String) : Except SettingsFault Bool :=
  if trueLiterals.contains value then .ok true
  else if falseLiterals.contains value then .ok false
  else .error (.notBoolean value)

def single : List Criterion → Except SettingsFault Criterion
  | [c] => .ok c
  | _ => .error .notSingle

/-- The parts of a list value that are not blank; there has to be one. -/
def items (c : Criterion) : Except SettingsFault (List String) :=
  match c.items with
  | [] => .error (.noValues c.name)
  | found => .ok found

/-- A count: an integer that is not negative, with blanks around it allowed. -/
def count (c : Criterion) : Except SettingsFault Int :=
  match Number.readInteger (Text.trimChars c.value.toList) with
  | .error fault => .error (.notInteger c.name c.value fault)
  | .ok n => if n < 0 then .error (.negativeCount c.name n) else .ok n

theorem items_eq_ok_iff {c : Criterion} {found : List String} :
    items c = .ok found ↔ found = c.items ∧ found ≠ [] := by
  unfold items
  split <;> rename_i h
  · simp [h]
  · simp only [Except.ok.injEq]
    constructor
    · rintro rfl
      exact ⟨rfl, by intro h'; simp_all⟩
    · rintro ⟨rfl, -⟩
      rfl

end Admission.Settings
