/-! Operators of criteria. -/

namespace ContentFinder

inductive Operator where
  | eq
  | gt
  | gte
  | lt
  | lte
  | isIn
  | between
  | like
  | contains
deriving DecidableEq, Repr

namespace Operator

def name : Operator → String
  | .eq => "EQ"
  | .gt => "GT"
  | .gte => "GTE"
  | .lt => "LT"
  | .lte => "LTE"
  | .isIn => "IN"
  | .between => "BETWEEN"
  | .like => "LIKE"
  | .contains => "CONTAINS"

def all : List Operator :=
  [.eq, .gt, .gte, .lt, .lte, .isIn, .between, .like, .contains]

end Operator

end ContentFinder
