import FlatRecord.Query.Operator
import FlatRecord.Regex.Basic
import FlatRecord.Value.Convert

namespace FlatRecord

inductive OperandFault where
  | missingBound
  | notContainer (kind : Kind)
  | notArray (kind : Kind)
  | pattern (e : Regex.Error)
deriving DecidableEq

def OperandFault.message : OperandFault → String
  | .missingBound => "both bounds are required"
  | .notContainer kind => "left operand must be an array, string, or map, got " ++ kind.name
  | .notArray kind => "left operand must be an array, got " ++ kind.name
  | .pattern e => e.message

inductive ArgumentFault where
  | count (given : Nat)
  | noLength (kind : Kind)
deriving DecidableEq

def ArgumentFault.message : ArgumentFault → String
  | .count given => "expected 1 argument, got " ++ toString given
  | .noLength kind => "expected a string or array, got " ++ kind.name

inductive EvalError where
  | unsupportedOperator (op : Operator)
  | divisionByZero
  | moduloByZero
  | nonNumericOperand (op : ArithmeticOp) (text : String)
  | unresolvedVariable (name : String)
  | unknownCastType (target : String)
  | malformedOperand (op : Operator) (fault : OperandFault)
  | unknownFunction (name : String)
  | invalidArgument (function : String) (fault : ArgumentFault)
  | functionFailed (name : String) (reason : String)
  | depthExceeded (limit : Nat)
  | conversion (e : ConversionError)
deriving DecidableEq

def EvalError.message : EvalError → String
  | .unsupportedOperator op => "unsupported operator: " ++ op.name
  | .divisionByZero => "division by zero"
  | .moduloByZero => "modulo by zero"
  | .nonNumericOperand op text => "non-numeric operand for " ++ op.name ++ ": " ++ Text.quoted text
  | .unresolvedVariable name => "unresolved variable: " ++ name
  | .unknownCastType target => "unknown cast type: " ++ target
  | .malformedOperand op fault => "invalid operand for " ++ op.name ++ ": " ++ fault.message
  | .unknownFunction name => "unknown function: " ++ name
  | .invalidArgument function fault =>
    "invalid argument for " ++ function ++ ": " ++ fault.message
  | .functionFailed name reason => "function " ++ name ++ " failed: " ++ reason
  | .depthExceeded limit => "expression depth exceeds maximum of " ++ toString limit
  | .conversion e => e.message

end FlatRecord
