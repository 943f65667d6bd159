import NodeAudit.Rpc.Message
import NodeAudit.Rpc.Method

/-!
# Expectations

What a response to a call must be: an error with a certain code, or a result of a certain type. The
type may be left to the method, whose family knows it.
-/

namespace NodeAudit.Suite

/-- What a call requires of the response. -/
inductive Expectation where
  /-- The response carries an error with exactly this code. -/
  | errorCode (code : Int64)
  /-- The response carries no error, and a result of the type. -/
  | result (kind : Rpc.ResultKind)
  /-- As `result`, with the type of the method's family. -/
  | resultForMethod
deriving DecidableEq, Repr

/-- The code of a call with parameters that the node does not accept. -/
def invalidParams : Int64 := -32602

namespace Expectation

/-- Check that a response carries an error with the code. -/
def checkErrorCode (expected : Int64) (r : Rpc.Response) : Except Failure Unit :=
  match r.error with
  | some e =>
    if e.code = expected then .ok ()
    else .error (.assertion ("expected error code " ++ Decimal.ofInt expected.toInt ++ ", got "
      ++ Decimal.ofInt e.code.toInt ++ " (" ++ e.message ++ ")"))
  | none =>
    .error (.assertion ("expected error code " ++ Decimal.ofInt expected.toInt
      ++ ", got a result instead"))

/-- Check that a response carries a result of the type and no error. -/
def checkResult (kind : Rpc.ResultKind) (r : Rpc.Response) : Except Failure Unit :=
  match r.error, r.result with
  | some e, _ => .error (.rpc e.code e.message)
  | none, some v =>
    if kind.accepts v then .ok ()
    else .error (.assertion ("expected " ++ kind.name ++ " result, got " ++ v.typeName))
  | none, none => .error (.assertion ("expected " ++ kind.name ++ " result, got none"))

/-- Check the response to a call of the method. -/
def check (e : Expectation) (method : String) (r : Rpc.Response) : Except Failure Unit :=
  match e with
  | errorCode code => checkErrorCode code r
  | result kind => checkResult kind r
  | resultForMethod =>
    match Rpc.Method.ofName? method with
    | some m => checkResult m.resultKind r
    | none => .error (.assertion ("No result kind known for method " ++ method))

end Expectation

end NodeAudit.Suite
