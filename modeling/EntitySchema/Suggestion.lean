/-
# `EntitySchema.Suggestion` — scalars meant by mistyped names

Names that other schemas and languages give to scalars are looked up in a table, entry by entry;
the first entry that accepts the name gives the scalar.  An entry accepts one spelling exactly, or
the integer types of some widths: a letter or a word for the kind, then the number of bits.

For the latter the name is searched for an expression, the parts of which are matched one after
the other.  Its first part is the beginning of the name and its last part the end, so that nothing
may stand around it; but a line feed at the very end of a name is not taken for a part of it.
-/
import EntitySchema.Scalar

namespace EntitySchema.Suggestion

/-! ## Searching a name -/

/-- A part of an expression. -/
inductive Part where
  /-- The beginning of the name. -/
  | start
  /-- One of some texts. -/
  | oneOf (texts : List String)
  /-- The end of the name, or the place in front of a line feed that ends it. -/
  | stop

/-- Whether parts match where the rest of a name begins, given whether nothing is before it. -/
def matchesAt : List Part → Bool → List Char → Bool
  | [], _, _ => true
  | .start :: parts, first, rest => first && matchesAt parts first rest
  | .oneOf texts :: parts, first, rest =>
      texts.any fun text =>
        text.toList.isPrefixOf rest
          && matchesAt parts (first && text.isEmpty) (rest.drop text.length)
  | .stop :: parts, first, rest =>
      (rest.isEmpty || rest == ['\n']) && matchesAt parts first rest

/-- Whether parts match somewhere in the rest of a name, given whether nothing is before it. -/
def foundFrom (parts : List Part) : Bool → List Char → Bool
  | first, [] => matchesAt parts first []
  | first, c :: rest => matchesAt parts first (c :: rest) || foundFrom parts false rest

/-! ## The table -/

/-- The names that an entry of the table accepts. -/
inductive Pattern where
  /-- One spelling. -/
  | spelling (name : String)
  /-- A word for a kind of integer, then its width in bits. -/
  | sized (words : List String) (widths : List Nat)

namespace Pattern

/-- The expression for the integer types of some words and widths. -/
def sizedParts (words : List String) (widths : List Nat) : List Part :=
  [.start, .oneOf words, .oneOf (widths.map toString), .stop]

/-- Whether a pattern accepts a name. -/
def accepts : Pattern → String → Bool
  | .spelling s, name => s == name
  | .sized words widths, name => foundFrom (sizedParts words widths) true name.toList

end Pattern

/-- An entry of the table. -/
structure Entry where
  pattern : Pattern
  scalar : Scalar

/-- The widths of the integer types that only a big integer holds, signed or not. -/
def wideWidths : List Nat :=
  [ 40, 48, 56, 64, 72, 80, 88, 96, 104, 112, 120, 128, 136, 144, 152, 160, 168, 176, 184, 192,
    200, 208, 216, 224, 232, 240, 248, 256 ]

/-- The table, in the order in which it is searched. -/
def table : List Entry :=
  [ ⟨.spelling "Address", .bytes⟩,
    ⟨.spelling "address", .bytes⟩,
    ⟨.spelling "bytes", .bytes⟩,
    ⟨.spelling "string", .string⟩,
    ⟨.spelling "bool", .boolean⟩,
    ⟨.spelling "boolean", .boolean⟩,
    ⟨.spelling "Bool", .boolean⟩,
    ⟨.spelling "float", .bigDecimal⟩,
    ⟨.spelling "Float", .bigDecimal⟩,
    ⟨.spelling "int", .int⟩,
    ⟨.spelling "uint", .bigInt⟩,
    ⟨.sized ["u", "uint"] [8, 16, 24], .int⟩,
    ⟨.sized ["i", "int"] [8, 16, 24, 32], .int⟩,
    ⟨.sized ["u", "uint"] [32], .bigInt⟩,
    ⟨.sized ["u", "uint", "i", "int"] wideWidths, .bigInt⟩ ]

/-- The scalar of the first entry of a table that accepts a name. -/
def lookup (entries : List Entry) (name : String) : Option Scalar :=
  (entries.find? fun entry => entry.pattern.accepts name).map (·.scalar)

/-- The scalar that a mistyped name most likely means. -/
def suggest (name : String) : Option Scalar := lookup table name

end EntitySchema.Suggestion
