/-!
The operators that compare what a request holds with the value of a criterion. Rules name them by
their texts; `ofText?` reads exactly the texts that `text` gives.
-/

namespace Admission

inductive Operator
  | equal
  | containsAll
  | containsAny
  | notContainsAny
  | containsOtherThan
  | matching
  | notMatching
  | atLeast
  | above
  | atMost
  | unspecified
  deriving DecidableEq, Repr

namespace Operator

def text : Operator → String
  | equal => "="
  | containsAll => "containsAll"
  | containsAny => "containsAny"
  | notContainsAny => "notContainsAny"
  | containsOtherThan => "containsOtherThan"
  | matching => "regex"
  | notMatching => "!regex"
  | atLeast => ">="
  | above => ">"
  | atMost => "<="
  | unspecified => ""

def all : List Operator :=
  [equal, containsAll, containsAny, notContainsAny, containsOtherThan, matching, notMatching,
    atLeast, above, atMost, unspecified]

def ofText? (s : String) : Option Operator := all.find? fun operator => operator.text == s

theorem ofText?_text (operator : Operator) : ofText? operator.text = some operator := by
  cases operator <;> decide

theorem text_of_ofText? {s : String} {operator : Operator} (h : ofText? s = some operator) :
    operator.text = s := by
  simpa using List.find?_some h

end Operator
end Admission
