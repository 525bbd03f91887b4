import FormValidation.Text.Blank
import FormValidation.Text.Letter
import FormValidation.Value.Basic

/-!
# Comparisons

A comparison reads its operands as values of one kind and asks whether an operator holds between them.
An operand that cannot be read makes the comparison invalid.  Only a range without an upper bound is an
error, and it is one before anything is read.
-/

namespace FormValidation

/-! ## Operators -/

inductive Operator where
  | equal
  | notEqual
  | greaterThan
  | lessThan
  | greaterThanEqual
  | lessThanEqual
  | range
  deriving Repr, DecidableEq

namespace Operator

def name : Operator → String
  | .equal => "equal"
  | .notEqual => "notequal"
  | .greaterThan => "greaterthan"
  | .lessThan => "lessthan"
  | .greaterThanEqual => "greaterthanequal"
  | .lessThanEqual => "lessthanequal"
  | .range => "range"

def all : List Operator :=
  [.equal, .notEqual, .greaterThan, .lessThan, .greaterThanEqual, .lessThanEqual, .range]

/-- The operator that a text names, in any case and with any white space around it. -/
def ofText (text : String) : Except Error Operator :=
  match all.find? fun op => Text.sameLetters op.name (Text.trim text) with
  | some op => .ok op
  | none => .error (.unknownOperator text)

/-- Whether the operator holds when `order` is the order of the value and the operand.  A range holds
when the value is not below the operand and not above the bound. -/
def holds (op : Operator) (order : Ordering) (orderToMax : Option Ordering) : Option Bool :=
  match op with
  | .equal => some order.isEq
  | .notEqual => some !order.isEq
  | .greaterThan => some order.isGT
  | .lessThan => some order.isLT
  | .greaterThanEqual => some order.isGE
  | .lessThanEqual => some order.isLE
  | .range => if order.isGE then orderToMax.map Ordering.isLE else some false

end Operator

/-! ## Outcomes -/

/-- How a comparison ended. -/
inductive Outcome where
  | passed
  | failed
  | invalid
  deriving Repr, DecidableEq

namespace Outcome

/-- The outcome of a comparison whose operands could be read. -/
def ofBool (holds : Bool) : Outcome :=
  if holds then .passed else .failed

def isPassed : Outcome → Bool
  | .passed => true
  | _ => false

end Outcome

/-! ## Comparing texts -/

namespace Locale

/-- The upper bound of a comparison, read as a value; `none` if the operator uses none. -/
def maximum? (l : Locale) (kind : ValueKind) (op : Operator) (max : Option String) :
    Option (Option Value) :=
  match op, max with
  | .range, some text => (Value.read? l kind text).map some
  | _, _ => some none

/-- The outcome when everything that is needed is there. -/
def outcome (l : Locale) (kind : ValueKind) (value : String) (op : Operator) (operand : String)
    (max : Option String) : Outcome :=
  let verdict : Option Bool := do
    -- All operands are read before any are compared.
    let a ← Value.read? l kind value
    let b ← Value.read? l kind operand
    let m ← l.maximum? kind op max
    op.holds (← a.compare? b) (m.bind a.compare?)
  (verdict.map Outcome.ofBool).getD .invalid

/-- Compares the value of a control with an operand and, for a range, with an upper bound. -/
def compare (l : Locale) (kind : ValueKind) (value : String) (op : Operator) (operand : String)
    (max : Option String) : Except Error Outcome :=
  if op = .range ∧ max = none then .error (.missingAttribute kind.name "comparemaxvalue")
  else .ok (l.outcome kind value op operand max)

end Locale
end FormValidation
