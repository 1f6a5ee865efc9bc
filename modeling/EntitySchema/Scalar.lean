/-
# `EntitySchema.Scalar` — the built-in scalar types

Every schema may use these without declaring them.
-/

namespace EntitySchema

/-- A scalar type that needs no declaration. -/
inductive Scalar where
  | boolean
  | int
  | bigDecimal
  | string
  | bigInt
  | bytes
  | id
  deriving DecidableEq

namespace Scalar

/-- The name of a scalar in a schema. -/
def name : Scalar → String
  | .boolean => "Boolean"
  | .int => "Int"
  | .bigDecimal => "BigDecimal"
  | .string => "String"
  | .bigInt => "BigInt"
  | .bytes => "Bytes"
  | .id => "ID"

/-- All built-in scalars. -/
def all : List Scalar := [.boolean, .int, .bigDecimal, .string, .bigInt, .bytes, .id]

/-- The names of all built-in scalars. -/
def names : List String := all.map name

theorem mem_all (s : Scalar) : s ∈ all := by cases s <;> decide

end Scalar

end EntitySchema
