/-
# `EntitySchema.Yaml.Property` — anchors, tags and directives

An anchor names a node, an alias refers to one by that name.  A tag says what a node is, by an
address or by a handle and the rest of an address, in which characters may be written by their
bytes.  Directives, each on a line of its own, come before a document.

Each reader gives the length of what it has read.
-/
import EntitySchema.Text.Utf8
import EntitySchema.Yaml.Character
import EntitySchema.Yaml.Fault
import EntitySchema.Yaml.Token

namespace EntitySchema.Yaml

/-! ## Names -/

/-- Whether the name of an anchor may end where a text begins. -/
def atNameEnd (text : List Char) : Bool :=
  text.head?.all fun c => isGap c || "?:,]\x7d%@\x60".toList.contains c

/-- The name of an anchor. -/
def anchorName (text : List Char) : Except Fault (String × Nat) :=
  let n := Text.countWhile isWordPart text
  if n ≠ 0 ∧ atNameEnd (text.drop n) then .ok (String.ofList (text.take n), n)
  else .error .malformed

/-! ## Tags -/

/-- The bytes that a text writes one by one, each as a percent sign and two digits. -/
def escapedBytes : List Char → Except Fault (List UInt8 × Nat)
  | '%' :: high :: low :: rest =>
      match Text.hexNumber? [high, low] with
      | some n => (fun (more, size) => (n.toUInt8 :: more, size + 3)) <$> escapedBytes rest
      | none => .error .malformed
  | '%' :: _ => .error .malformed
  | _ => .ok ([], 0)

/-- The characters of an address. -/
def addressText : List Char → Except Fault (List Char × Nat)
  | [] => return ([], 0)
  | c :: rest => do
      if c = '%' then
        let (bytes, n) ← escapedBytes (c :: rest)
        let written ← (Text.Utf8.decode bytes).mapError fun _ => Fault.malformed
        if _read : 0 < n then
          let (more, size) ← addressText ((c :: rest).drop n)
          return (written ++ more, n + size)
        else throw .malformed
      else if isAddressPart c then
        let (more, size) ← addressText rest
        return (c :: more, size + 1)
      else return ([], 0)
termination_by text => text.length
decreasing_by all_goals (simp only [List.length_cons, List.length_drop]; omega)

/-- An address, which must not be empty. -/
def address (text : List Char) : Except Fault (String × Nat) := do
  let (characters, n) ← addressText text
  if n = 0 then throw .malformed
  return (String.ofList characters, n)

/-- A handle: an exclamation mark, or a name between two of them. -/
def handle (text : List Char) : Except Fault (String × Nat) :=
  let n := Text.countWhile isWordPart (text.drop 1)
  let size := if startsWith ' ' (text.drop 1) then 1 else n + 2
  if startsWith '!' text ∧ startsWith '!' (text.drop (size - 1)) then
    .ok (String.ofList (text.take size), size)
  else .error .malformed

/-- Whether the word at the beginning of a text has an exclamation mark. -/
def hasHandle (text : List Char) : Bool :=
  (text.takeWhile fun c => c != ' ' && !isBreak c).contains '!'

/-- A tag without a check of what follows it. -/
def tagText (text : List Char) : Except Fault (TagText × Nat) := do
  let rest := text.drop 1
  if startsWith '<' rest then
    let (uri, n) ← address (rest.drop 1)
    if !startsWith '>' (rest.drop (1 + n)) then throw .malformed
    return (⟨none, uri⟩, n + 3)
  else if atGap rest then return (⟨none, "!"⟩, 1)
  else if hasHandle rest then
    let (name, n) ← handle text
    let (uri, size) ← address (text.drop n)
    return (⟨some name, uri⟩, n + size)
  else
    let (uri, size) ← address rest
    return (⟨some "!", uri⟩, size + 1)

/-- A tag, from its exclamation mark on. -/
def tag (text : List Char) : Except Fault (TagText × Nat) := do
  let (found, n) ← tagText text
  if !atSpace (text.drop n) then throw .malformed
  return (found, n)

/-! ## Directives -/

/-- A number in decimal digits. -/
def decimal (text : List Char) : Except Fault (Nat × Nat) :=
  let digits := text.takeWhile Char.isDigit
  if digits.isEmpty then .error .malformed
  else if Exception.mostDigits < digits.length then .error (.raised (.tooManyDigits digits.length))
  else .ok (digits.foldl (fun n c => n * 10 + (c.toNat - '0'.toNat)) 0, digits.length)

/-- The version that a directive asks for. -/
def versionDirective (text : List Char) : Except Fault (Directive × Nat) := do
  let blank := spaces text
  let (major, n) ← decimal (text.drop blank)
  let point := blank + n
  if !startsWith '.' (text.drop point) then throw .malformed
  let (_, m) ← decimal (text.drop (point + 1))
  let size := point + 1 + m
  if !atSpace (text.drop size) then throw .malformed
  return (.version major, size)

/-- The handle that a directive explains. -/
def handleDirective (text : List Char) : Except Fault (Directive × Nat) := do
  let blank := spaces text
  let (name, n) ← handle (text.drop blank)
  let afterName := text.drop (blank + n)
  let gap := spaces afterName
  if gap = 0 then throw .malformed
  let (uri, m) ← address (afterName.drop gap)
  let size := blank + n + gap + m
  if !atSpace (text.drop size) then throw .malformed
  return (.handle name uri, size)

/-- A directive with the rest of its line, read after its percent sign. -/
def directive (text : List Char) : Except Fault (Directive × Nat) := do
  let n := Text.countWhile isWordPart text
  let rest := text.drop n
  if n = 0 ∨ !atSpace rest then throw .malformed
  let (found, m) ←
    match String.ofList (text.take n) with
    | "YAML" => versionDirective rest
    | "TAG" => handleDirective rest
    | _ => pure (.other, lineLength rest)
  let some k := emptyRest? (rest.drop m) | throw .malformed
  return (found, n + m + k)

end EntitySchema.Yaml
