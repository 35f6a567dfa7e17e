import Admission.Number.Integer
import Admission.Text.Quoted

namespace Admission

inductive SettingsFault
  /-- A list value holds nothing but blanks and commas. -/
  | noValues (name : String)
  | noNamespaces
  /-- A module that takes one criterion was given none or several. -/
  | notSingle
  | notBoolean (value : String)
  | foreignCriterion (name : String)
  | onlyFalse (name value : String)
  | foreignListOperator (operator : String)
  | unknownRole (category : String)
  | notInteger (name value : String) (fault : Number.IntegerFault)
  | negativeCount (name : String) (count : Int)
  | countOutOfRange (count : Int)
  | noParts (name : String)
  | foreignPartOperator (operator name : String)
  | notQuantity (name value : String)
  | foreignPart (name : String)
  | noConditions
  | foreignOperator (operator name : String)
  /-- A value or its pattern is no regular expression. -/
  | invalidPattern (pattern name : String)
  deriving DecidableEq, Repr

/-- The text of a fault. What is wrong with a pattern is left open. -/
def SettingsFault.message : SettingsFault → String
  | noValues name => "criterion " ++ name ++ " has no values"
  | noNamespaces => "namespace criterion has no values"
  | notSingle => "only one criterion is allowed"
  | notBoolean value => "invalid boolean value: " ++ Text.quoted value
  | foreignCriterion name => "unsupported criterion: " ++ name
  | onlyFalse name value => name ++ " supports only false value, got: " ++ value
  | foreignListOperator operator => "unsupported criteria operator: " ++ operator
  | unknownRole category => "unknown risky role category: " ++ category
  | notInteger name value fault =>
    "invalid " ++ name ++ " value " ++ Text.quoted value ++ ": " ++ fault.message
  | negativeCount name count => name ++ " must not be negative, got " ++ toString count
  | countOutOfRange count => "CVE threshold " ++ toString count ++ " is out of range"
  | noParts name => "criterion " ++ name ++ " has no sub-criteria"
  | foreignPartOperator operator name =>
    "unsupported operator " ++ Text.quoted operator ++ " for " ++ name
  | notQuantity name value =>
    "invalid " ++ name ++ " value " ++ Text.quoted value ++ ": expected a non-negative number"
  | foreignPart name => "unsupported sub-criterion: " ++ name
  | noConditions => "no criteria to build CEL validations from"
  | foreignOperator operator name =>
    "unsupported operator " ++ operator ++ " for criterion " ++ name
  | invalidPattern pattern name =>
    "invalid pattern " ++ Text.quoted pattern ++ " for criterion " ++ name ++ ": *"

end Admission
