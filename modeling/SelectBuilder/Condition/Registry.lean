import SelectBuilder.Condition.Operator

/-! Operators by name. Names are registered and replaced, never removed. -/
namespace SelectBuilder

structure Registry where
  operators : Entries Operator

namespace Registry

def contains : Operator := .like "%\x7b\x7d%" true
def startsWith : Operator := .like "\x7b\x7d%" true
def endsWith : Operator := .like "%\x7b\x7d" true

/-- The operator of a key that names none. -/
def equal : Operator := .comparison "=" (some "IS NULL")

/-- The operators that are there from the start. -/
def builtin : Registry := ⟨Entries.ofList [
  ("eq", equal),
  ("ne", .comparison "!=" (some "IS NOT NULL")),
  ("gt", .comparison ">" none),
  ("gte", .comparison ">=" none),
  ("lt", .comparison "<" none),
  ("lte", .comparison "<=" none),
  ("between", .between),
  ("in", .membership),
  ("not_in", .negation .membership),
  ("contains", contains),
  ("startswith", startsWith),
  ("endswith", endsWith),
  ("icontains", .like "%\x7b\x7d%" false),
  ("istartswith", .like "\x7b\x7d%" false),
  ("iendswith", .like "%\x7b\x7d" false),
  ("iexact", .caselessEqual)]⟩

def register (registry : Registry) (name : String) (operator : Operator) : Registry :=
  ⟨registry.operators.insert name operator⟩

def resolve? (registry : Registry) (name : String) : Option Operator :=
  registry.operators.get? name

/-- The operator registered under `eq`. -/
def default (registry : Registry) : Operator :=
  (registry.resolve? "eq").getD equal

end Registry

end SelectBuilder
