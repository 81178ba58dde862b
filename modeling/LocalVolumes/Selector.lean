import LocalVolumes.Metadata

/-!
# LocalVolumes.Selector — choosing volume groups by their labels

A selector as it is written is a map of labels and a list of expressions.  `Selector.compile` turns it into
requirements, or says why it is not well formed; a group is selected if its labels meet all of them.
-/

namespace LocalVolumes

/-! ### As it is written -/

/-- An expression about the label of a key. -/
structure LabelExpression where
  key : String
  operator : String
  values : Option (List String)
  deriving DecidableEq, Repr

/-- A selector as it is written. -/
structure LabelSelector where
  matchLabels : Option (NameMap String)
  matchExpressions : Option (List LabelExpression)
  deriving DecidableEq

open Json (Draft)

namespace LabelExpression

/-- An expression as JSON. -/
def toJson (e : LabelExpression) : Json :=
  Json.objectOf [("key", some (.string e.key)), ("operator", some (.string e.operator)),
    ("values", e.values.map Json.strings)]

/-- The expression of a draft; a missing key or operator is empty. -/
def ofDraft? (d : Draft) : Option LabelExpression := do
  let fields ← d.lenientRecord? ["key", "operator", "values"]
  return {
    key := (← Draft.last? fields "key" Draft.text?).getD ""
    operator := (← Draft.last? fields "operator" Draft.text?).getD ""
    values := ← Draft.last? fields "values" (Draft.items? Draft.text?) }

end LabelExpression

namespace LabelSelector

/-- A selector as JSON. -/
def toJson (s : LabelSelector) : Json :=
  Json.objectOf [("matchExpressions", s.matchExpressions.map (fun es => .array (es.map (·.toJson)))),
    ("matchLabels", s.matchLabels.map NameMap.toJson)]

/-- The selector of a draft. -/
def ofDraft? (d : Draft) : Option LabelSelector := do
  let fields ← d.lenientRecord? ["matchExpressions", "matchLabels"]
  return {
    matchLabels := ← Draft.last? fields "matchLabels" Draft.textMap?
    matchExpressions :=
      ← Draft.last? fields "matchExpressions" (Draft.items? LabelExpression.ofDraft?) }

end LabelSelector

/-! ### Requirements -/

/-- A condition on the labels of a group. -/
inductive Requirement
  | equals (key value : String)
  | isIn (key : String) (values : List String)
  | notIn (key : String) (values : List String)
  | exists (key : String)
  | doesNotExist (key : String)
  deriving DecidableEq, Repr

/-- Whether labels meet a condition. -/
def Requirement.holds (labels : NameMap String) : Requirement → Bool
  | .equals k v => labels.get? k == some v
  | .isIn k vs => ((labels.get? k).map vs.contains).getD false
  | .notIn k vs => ((labels.get? k).map (fun v => !vs.contains v)).getD true
  | .exists k => labels.contains k
  | .doesNotExist k => !labels.contains k

/-- The conditions of a selector. -/
structure Selector where
  requirements : List Requirement
  deriving DecidableEq, Repr

namespace Selector

/-- Why a selector is not well formed. -/
inductive Fault
  | emptyKey
  | missingValues (operator key : String)
  | surplusValues (operator key : String)
  | unknownOperator (operator : String)
  deriving DecidableEq, Repr

/-- The wording of a cause. -/
def Fault.message : Fault → String
  | .emptyKey => "label key must not be empty"
  | .missingValues operator key =>
    "values set for operator " ++ operator ++ " on key " ++ Text.quoted key ++ " can't be empty"
  | .surplusValues operator key =>
    "values set for operator " ++ operator ++ " on key " ++ Text.quoted key ++ " must be empty"
  | .unknownOperator operator =>
    Text.quoted operator ++ " is not a valid label selector operator"

/-- The condition of a label. -/
def ofLabel (label : String × String) : Except Fault Requirement :=
  if label.1 = "" then .error .emptyKey else .ok (.equals label.1 label.2)

/-- The condition of an expression. -/
def ofExpression (e : LabelExpression) : Except Fault Requirement :=
  let values := e.values.getD []
  if e.key = "" then .error .emptyKey
  else if e.operator = "In" then
    if values = [] then .error (.missingValues e.operator e.key) else .ok (.isIn e.key values)
  else if e.operator = "NotIn" then
    if values = [] then .error (.missingValues e.operator e.key) else .ok (.notIn e.key values)
  else if e.operator = "Exists" then
    if values = [] then .ok (.exists e.key) else .error (.surplusValues e.operator e.key)
  else if e.operator = "DoesNotExist" then
    if values = [] then .ok (.doesNotExist e.key) else .error (.surplusValues e.operator e.key)
  else .error (.unknownOperator e.operator)

/-- The conditions of a selector: those of its labels, then those of its expressions. -/
def compile (s : LabelSelector) : Except Fault Selector := do
  let labels ← ((s.matchLabels.map (·.toList)).getD []).mapM ofLabel
  let expressions ← (s.matchExpressions.getD []).mapM ofExpression
  .ok ⟨labels ++ expressions⟩

/-- Whether the selector has no conditions. -/
def isEmpty (s : Selector) : Bool := s.requirements.isEmpty

/-- Whether labels meet all conditions. -/
def matchesLabels (s : Selector) (labels : NameMap String) : Bool :=
  s.requirements.all (·.holds labels)

end Selector

end LocalVolumes
