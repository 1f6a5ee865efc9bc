/-
# `EntitySchema.Proofs.JsonReader` — what is written in JSON can be read back

A reader of JSON, as the standard has it: blanks may stand around every token, a string may spell a
character by an escape of any kind, and one beyond the first plane by two units.  It knows nothing of
how reports are laid out.  It goes through the text once, character by character, and keeps the
collections it is inside of on a stack.  The kinds of values it knows are those of `Json`; on a text of
any other kind, as on one that is no JSON, it stops.

`Reads` says that a text is read as a value wherever a value may stand.  There is one lemma for each
kind of value, and `decode_render` follows by induction on the value.
-/
import EntitySchema.Json.Basic
import Mathlib.Data.List.Forall2
import Mathlib.Tactic.IntervalCases

namespace EntitySchema.JsonReader

/-! ## The reader -/

inductive Escape where
  | none
  | begun
  /-- So many digits are to come after this one of a unit, of which this much has been read. -/
  | unit (more n : Nat)

/-- What a string is for. -/
inductive Role where
  | value
  /-- The name of a member, after some members of the object. -/
  | name (members : List (String × Json))

/-- A collection around what is being read. -/
inductive Frame where
  | array (items : List Json)
  | object (members : List (String × Json)) (name : String)

/-- What is being read. -/
inductive Mode where
  | value
  | name (members : List (String × Json))
  | colon (members : List (String × Json)) (name : String)
  | string (role : Role) (units : List Nat) (escape : Escape)
  | number (n : Nat)
  | done (json : Json)

/-- What is being read, and inside of which collections. -/
structure State where
  stack : List Frame
  mode : Mode

/-- A character between tokens. -/
def isBlank (c : Char) : Bool := c == ' ' || c == '\n' || c == '\r' || c == '\t'

/-- The character that an escape by a letter stands for. -/
def letter? : Char → Option Char
  | '"' => some '"'
  | '\\' => some '\\'
  | '/' => some '/'
  | 'b' => some '\x08'
  | 'f' => some '\x0c'
  | 'n' => some '\n'
  | 'r' => some '\r'
  | 't' => some '\t'
  | _ => none

/-- The text of some sixteen-bit units; the halves of a pair must be together. -/
def ofUnits16 : List Nat → Option (List Char)
  | [] => some []
  | unit :: rest =>
      if Text.isHighSurrogate unit then
        match rest with
        | [] => none
        | low :: more =>
            if Text.isLowSurrogate low then do
              let c ← Text.scalar? (Text.ofSurrogates unit low)
              return c :: (← ofUnits16 more)
            else none
      else do
        let c ← Text.scalar? unit
        return c :: (← ofUnits16 rest)

/-- Begins a value with a character. -/
def begin (stack : List Frame) (c : Char) : Option State :=
  if c = '"' then some ⟨stack, .string .value [] .none⟩
  else if c = '[' then some ⟨.array [] :: stack, .value⟩
  else if c = '{' then some ⟨stack, .name []⟩
  else if c.isDigit then some ⟨stack, .number (c.toNat - '0'.toNat)⟩
  else
    match stack, c with
    | .array [] :: below, ']' => some ⟨below, .done (.array [])⟩
    | _, _ => none

/-- Ends a string. -/
def close (stack : List Frame) (units : List Nat) : Role → Option State
  | .value => (ofUnits16 units).map fun text => ⟨stack, .done (.string (String.ofList text))⟩
  | .name members =>
      (ofUnits16 units).map fun text => ⟨stack, .colon members (String.ofList text)⟩

/-- Goes on after a value. -/
def after (stack : List Frame) (json : Json) (c : Char) : Option State :=
  if isBlank c then some ⟨stack, .done json⟩
  else
    match stack, c with
    | .array items :: below, ',' => some ⟨.array (items ++ [json]) :: below, .value⟩
    | .array items :: below, ']' => some ⟨below, .done (.array (items ++ [json]))⟩
    | .object members name :: below, ',' => some ⟨below, .name (members ++ [(name, json)])⟩
    | .object members name :: below, '}' =>
        some ⟨below, .done (.object (members ++ [(name, json)]))⟩
    | _, _ => none

/-- Goes on in a string. -/
def inString (stack : List Frame) (role : Role) (units : List Nat) (escape : Escape) (c : Char) :
    Option State :=
  match escape with
  | .none =>
      if c = '"' then close stack units role
      else if c = '\\' then some ⟨stack, .string role units .begun⟩
      else if c < ' ' then none
      else some ⟨stack, .string role (units ++ Text.units16 c) .none⟩
  | .begun =>
      if c = 'u' then some ⟨stack, .string role units (.unit 3 0)⟩
      else (letter? c).map fun meant =>
        ⟨stack, .string role (units ++ Text.units16 meant) .none⟩
  | .unit 0 n =>
      (Text.hexValue? c).map fun digit =>
        ⟨stack, .string role (units ++ [n * 16 + digit]) .none⟩
  | .unit (more + 1) n =>
      (Text.hexValue? c).map fun digit =>
        ⟨stack, .string role units (.unit more (n * 16 + digit))⟩

/-- The state after one more character. -/
def step (state : State) (c : Char) : Option State :=
  match state.mode with
  | .value => if isBlank c then some state else begin state.stack c
  | .name members =>
      if isBlank c then some state
      else if c = '"' then some ⟨state.stack, .string (.name members) [] .none⟩
      else if c = '}' ∧ members.isEmpty then some ⟨state.stack, .done (.object [])⟩
      else none
  | .colon members name =>
      if isBlank c then some state
      else if c = ':' then some ⟨.object members name :: state.stack, .value⟩
      else none
  | .string role units escape => inString state.stack role units escape c
  | .number n =>
      if c.isDigit then
        if n = 0 then none else some ⟨state.stack, .number (n * 10 + (c.toNat - '0'.toNat))⟩
      else after state.stack (.number n) c
  | .done json => after state.stack json c

/-- The state after a text. -/
def run (state : State) (text : List Char) : Option State := text.foldlM step state

/-- The value that has been read when the text is at its end. -/
def State.result? : State → Option Json
  | ⟨[], .done json⟩ => some json
  | ⟨[], .number n⟩ => some (.number n)
  | _ => none

/-- The value that a text writes. -/
def decode (text : String) : Option Json := run ⟨[], .value⟩ text.toList >>= State.result?

/-! ## Steps -/

variable {stack : List Frame} {role : Role} {units : List Nat} {rest : List Char}

theorem run_cons {state next : State} {c : Char} (h : step state c = some next) :
    run state (c :: rest) = run next rest := by
  show (step state c).bind _ = _
  rw [h]
  rfl

/-- Blanks in front of a token are passed over. -/
theorem run_newLine {state : State} {level : Nat}
    (h : ∀ c, isBlank c = true → step state c = some state) :
    run state (Json.newLine level ++ rest) = run state rest := by
  rw [Json.newLine, List.cons_append, run_cons (h '\n' rfl)]
  induction 2 * level with
  | zero => rfl
  | succ n ih => rw [List.replicate_succ, List.cons_append, run_cons (h ' ' rfl), ih]

theorem step_value_of_isBlank {c : Char} (h : isBlank c = true) :
    step ⟨stack, .value⟩ c = some ⟨stack, .value⟩ := by
  rw [step]
  exact if_pos h

theorem step_done_of_isBlank {json : Json} {c : Char} (h : isBlank c = true) :
    step ⟨stack, .done json⟩ c = some ⟨stack, .done json⟩ := by
  rw [step]
  exact if_pos h

theorem step_name_of_isBlank {members : List (String × Json)} {c : Char} (h : isBlank c = true) :
    step ⟨stack, .name members⟩ c = some ⟨stack, .name members⟩ := by
  rw [step]
  exact if_pos h

/-! ## Strings -/

theorem hexValue?_digitChar : ∀ d < 16, Text.hexValue? (Nat.digitChar d) = some d := by
  decide

theorem hexDigits_four {n : Nat} (h : n < 0x10000) :
    Text.hexDigits 4 n
      = [(n / 0x1000).digitChar, (n / 0x100 % 16).digitChar, (n / 0x10 % 16).digitChar,
        (n % 16).digitChar] := by
  -- Where the numeral is too short, the zeros it is filled up with are the missing digits.
  have hzero {m : Nat} (hm : m = 0) : m.digitChar = '0' := Nat.digitChar_eq_zero.mpr hm
  rw [Text.hexDigits]
  by_cases h1 : n < 16
  · rw [Nat.toDigits_of_lt_base h1, hzero (by omega : n / 0x1000 = 0),
      hzero (by omega : n / 0x100 % 16 = 0), hzero (by omega : n / 0x10 % 16 = 0),
      Nat.mod_eq_of_lt h1]
    rfl
  rw [Nat.toDigits_of_base_le (by decide) (by omega)]
  by_cases h2 : n / 16 < 16
  · rw [Nat.toDigits_of_lt_base h2, hzero (by omega : n / 0x1000 = 0),
      hzero (by omega : n / 0x100 % 16 = 0), Nat.mod_eq_of_lt h2]
    rfl
  rw [Nat.toDigits_of_base_le (by decide) (by omega), Nat.div_div_eq_div_mul]
  by_cases h3 : n / (16 * 16) < 16
  · rw [Nat.toDigits_of_lt_base h3, hzero (by omega : n / 0x1000 = 0),
      Nat.mod_eq_of_lt h3]
    rfl
  rw [Nat.toDigits_of_base_le (by decide) (by omega), Nat.div_div_eq_div_mul,
    Nat.toDigits_of_lt_base (by omega)]
  rfl

theorem step_backslash :
    step ⟨stack, .string role units .none⟩ '\\' = some ⟨stack, .string role units .begun⟩ :=
  rfl

theorem step_u :
    step ⟨stack, .string role units .begun⟩ 'u' = some ⟨stack, .string role units (.unit 3 0)⟩ :=
  rfl

theorem step_digit {more n d : Nat} (hd : d < 16) :
    step ⟨stack, .string role units (.unit (more + 1) n)⟩ d.digitChar
      = some ⟨stack, .string role units (.unit more (n * 16 + d))⟩ := by
  show (Text.hexValue? d.digitChar).map _ = _
  rw [hexValue?_digitChar d hd]
  rfl

theorem step_lastDigit {n d : Nat} (hd : d < 16) :
    step ⟨stack, .string role units (.unit 0 n)⟩ d.digitChar
      = some ⟨stack, .string role (units ++ [n * 16 + d]) .none⟩ := by
  show (Text.hexValue? d.digitChar).map _ = _
  rw [hexValue?_digitChar d hd]
  rfl

theorem run_unit {unit : Nat} (h : unit < 0x10000) :
    run ⟨stack, .string role units .none⟩ ('\\' :: 'u' :: Text.hexDigits 4 unit ++ rest)
      = run ⟨stack, .string role (units ++ [unit]) .none⟩ rest := by
  have hunit : (((0 * 16 + unit / 0x1000) * 16 + unit / 0x100 % 16) * 16 + unit / 0x10 % 16) * 16
      + unit % 16 = unit := by
    omega
  rw [hexDigits_four h, List.cons_append, run_cons step_backslash]
  show run _ ('u' :: _ :: _ :: _ :: _ :: rest) = _
  rw [run_cons step_u,
    run_cons (step_digit (by omega)), run_cons (step_digit (by omega)),
    run_cons (step_digit (by omega)), run_cons (step_lastDigit (by omega)), hunit]

theorem run_letter {letter c : Char} (hletter : letter ≠ 'u') (hmeant : letter? letter = some c) :
    run ⟨stack, .string role units .none⟩ ('\\' :: letter :: rest)
      = run ⟨stack, .string role (units ++ Text.units16 c) .none⟩ rest := by
  have hstep : step ⟨stack, .string role units .begun⟩ letter
      = some ⟨stack, .string role (units ++ Text.units16 c) .none⟩ := by
    show (if letter = 'u' then _ else (letter? letter).map _) = _
    rw [if_neg hletter, hmeant]
    rfl
  rw [run_cons step_backslash, run_cons hstep]

theorem letter?_of_letterEscape? {c letter : Char} (h : Json.letterEscape? c = some letter) :
    letter ≠ 'u' ∧ letter? letter = some c := by
  unfold Json.letterEscape? at h
  split at h
  case h_8 => cases h
  all_goals
    cases h
    exact ⟨by decide, rfl⟩

theorem toNat_cases (c : Char) : c.toNat < 0xD800 ∨ 0xDFFF < c.toNat ∧ c.toNat < 0x110000 :=
  c.valid

theorem units16_lt {c : Char} : ∀ unit ∈ Text.units16 c, unit < 0x10000 := by
  have hcases := toNat_cases c
  intro unit hmem
  rw [Text.units16] at hmem
  split at hmem
  · rw [List.mem_singleton] at hmem
    omega
  · simp only [List.mem_cons, List.not_mem_nil, or_false] at hmem
    omega

theorem run_units {us : List Nat} (h : ∀ unit ∈ us, unit < 0x10000) :
    run ⟨stack, .string role units .none⟩
        ((us.flatMap fun unit => '\\' :: 'u' :: Text.hexDigits 4 unit) ++ rest)
      = run ⟨stack, .string role (units ++ us) .none⟩ rest := by
  induction us generalizing units with
  | nil => rw [List.append_nil]; rfl
  | cons unit us ih =>
      rw [List.forall_mem_cons] at h
      rw [List.flatMap_cons, List.append_assoc, run_unit h.1, ih h.2, List.append_assoc]
      rfl

/-- A character is read from whatever it is written as. -/
theorem run_escaped {c : Char} :
    run ⟨stack, .string role units .none⟩ (Json.escaped c ++ rest)
      = run ⟨stack, .string role (units ++ Text.units16 c) .none⟩ rest := by
  rw [Json.escaped]
  cases hletter : Json.letterEscape? c with
  | some letter =>
      obtain ⟨hne, hmeant⟩ := letter?_of_letterEscape? hletter
      exact run_letter hne hmeant
  | none =>
      show run _ ((if ' ' ≤ c ∧ c ≤ '~' then [c] else _) ++ rest) = _
      split
      · rename_i hprintable
        refine run_cons ?_
        show (if c = '"' then _ else if c = '\\' then _ else if c < ' ' then _ else _) = _
        have hquote : c ≠ '"' := by
          rintro rfl
          cases hletter
        have hbackslash : c ≠ '\\' := by
          rintro rfl
          cases hletter
        rw [if_neg hquote, if_neg hbackslash, if_neg (Char.not_lt.mpr hprintable.1)]
      · exact run_units units16_lt

theorem run_escapes {text : List Char} :
    run ⟨stack, .string role units .none⟩ (text.flatMap Json.escaped ++ rest)
      = run ⟨stack, .string role (units ++ text.flatMap Text.units16) .none⟩ rest := by
  induction text generalizing units with
  | nil => rw [List.flatMap_nil, List.flatMap_nil, List.append_nil]; rfl
  | cons c text ih =>
      rw [List.flatMap_cons, List.append_assoc, run_escaped, ih, List.append_assoc,
        List.flatMap_cons]

theorem isHighSurrogate_iff {n : Nat} :
    Text.isHighSurrogate n = true ↔ 0xD800 ≤ n ∧ n ≤ 0xDBFF := by
  rw [Text.isHighSurrogate, Bool.and_eq_true, decide_eq_true_eq, decide_eq_true_eq]

theorem isLowSurrogate_iff {n : Nat} :
    Text.isLowSurrogate n = true ↔ 0xDC00 ≤ n ∧ n ≤ 0xDFFF := by
  rw [Text.isLowSurrogate, Bool.and_eq_true, decide_eq_true_eq, decide_eq_true_eq]

theorem ofUnits16_scalar {c : Char} {us : List Nat} :
    ofUnits16 (c.toNat :: us) = (ofUnits16 us).map (c :: ·) := by
  have hunit : ¬ Text.isHighSurrogate c.toNat = true := by
    rw [isHighSurrogate_iff]
    have := toNat_cases c
    omega
  rw [ofUnits16.eq_def]
  show (if Text.isHighSurrogate c.toNat then _ else _) = _
  rw [if_neg hunit, Text.scalar?_toNat]
  cases ofUnits16 us with
  | none => rfl
  | some text => rfl

theorem ofUnits16_pair {c : Char} {high low : Nat} {us : List Nat}
    (hhigh : Text.isHighSurrogate high = true) (hlow : Text.isLowSurrogate low = true)
    (hpair : Text.ofSurrogates high low = c.toNat) :
    ofUnits16 (high :: low :: us) = (ofUnits16 us).map (c :: ·) := by
  rw [ofUnits16.eq_def]
  show (if Text.isHighSurrogate high then if Text.isLowSurrogate low then _ else _ else _) = _
  rw [if_pos hhigh, if_pos hlow, hpair, Text.scalar?_toNat]
  cases ofUnits16 us with
  | none => rfl
  | some text => rfl

theorem isHighSurrogate_add {n : Nat} (h : n < 0x100000) :
    Text.isHighSurrogate (0xD800 + n / 0x400) = true := by
  rw [isHighSurrogate_iff]
  omega

theorem isLowSurrogate_add (n : Nat) : Text.isLowSurrogate (0xDC00 + n % 0x400) = true := by
  rw [isLowSurrogate_iff]
  omega

theorem ofSurrogates_add (n : Nat) :
    Text.ofSurrogates (0xD800 + n / 0x400) (0xDC00 + n % 0x400) = 0x10000 + n := by
  have hhigh : 0xD800 + n / 0x400 - 0xD800 = n / 0x400 := Nat.add_sub_cancel_left ..
  have hlow : 0xDC00 + n % 0x400 - 0xDC00 = n % 0x400 := Nat.add_sub_cancel_left ..
  calc Text.ofSurrogates (0xD800 + n / 0x400) (0xDC00 + n % 0x400)
      = 0x10000 + n / 0x400 * 0x400 + n % 0x400 := by
        unfold Text.ofSurrogates
        rw [hhigh, hlow]
    _ = 0x10000 + n := by omega

theorem ofUnits16_units16_append {c : Char} {us : List Nat} :
    ofUnits16 (Text.units16 c ++ us) = (ofUnits16 us).map (c :: ·) := by
  rw [Text.units16]
  split
  · exact ofUnits16_scalar
  · rename_i hfirst
    obtain ⟨n, hn⟩ : ∃ n, c.toNat = 0x10000 + n := ⟨c.toNat - 0x10000, by omega⟩
    have hbound : n < 0x100000 := by
      have := toNat_cases c
      omega
    rw [hn, Nat.add_sub_cancel_left]
    refine ofUnits16_pair (isHighSurrogate_add hbound) (isLowSurrogate_add n) ?_
    rw [ofSurrogates_add, hn]

theorem ofUnits16_flatMap_units16 {text : List Char} :
    ofUnits16 (text.flatMap Text.units16) = some text := by
  induction text with
  | nil => rfl
  | cons c text ih => rw [List.flatMap_cons, ofUnits16_units16_append, ih]; rfl

/-- A string is read to its end wherever one may begin. -/
theorem run_quoted {state : State} {text : String}
    (h : step state '"' = some ⟨stack, .string role [] .none⟩) :
    run state (Json.quoted text ++ rest)
      = (close stack (text.toList.flatMap Text.units16) role).bind (run · rest) := by
  rw [Json.quoted, List.append_assoc, List.cons_append, run_cons h, run_escapes, List.nil_append]
  rfl

theorem run_name {members : List (String × Json)} {name : String} :
    run ⟨stack, .name members⟩ (Json.quoted name ++ rest)
      = run ⟨stack, .colon members name⟩ rest := by
  have hbegin : step ⟨stack, .name members⟩ '"'
      = some ⟨stack, .string (.name members) [] .none⟩ := rfl
  rw [run_quoted hbegin, close, ofUnits16_flatMap_units16]
  show run ⟨stack, .colon members (String.ofList name.toList)⟩ rest = _
  rw [String.ofList_toList]

/-! ## Values -/

/-- A text is read as a value in front of every character that cannot be part of a number. -/
def Reads (text : List Char) (json : Json) : Prop :=
  ∀ stack c rest, c.isDigit = false →
    run ⟨stack, .value⟩ (text ++ c :: rest) = run ⟨stack, .done json⟩ (c :: rest)

theorem reads_string (text : String) : Reads (Json.quoted text) (.string text) := by
  intro stack c rest _
  have hbegin : step ⟨stack, .value⟩ '"' = some ⟨stack, .string .value [] .none⟩ := rfl
  rw [run_quoted hbegin, close, ofUnits16_flatMap_units16]
  show run ⟨stack, .done (.string (String.ofList text.toList))⟩ _ = _
  rw [String.ofList_toList]

theorem run_number {n : Nat} {c : Char} (hc : c.isDigit = false) :
    run ⟨stack, .number n⟩ (c :: rest) = run ⟨stack, .done (.number n)⟩ (c :: rest) := by
  have hstep : step ⟨stack, .number n⟩ c = step ⟨stack, .done (.number n)⟩ c := by
    show (if c.isDigit then _ else after stack (.number n) c) = _
    rw [if_neg (Bool.eq_false_iff.mp hc)]
    rfl
  show (step _ c).bind _ = (step _ c).bind _
  rw [hstep]

theorem step_number {n d : Nat} (hn : n ≠ 0) (hd : d < 10) :
    step ⟨stack, .number n⟩ d.digitChar = some ⟨stack, .number (n * 10 + d)⟩ := by
  have hdigit : d.digitChar.isDigit = true := by rw [Nat.isDigit_digitChar, decide_eq_true hd]
  show (if _ then if n = 0 then none else some _ else _) = _
  rw [if_pos hdigit, if_neg hn]
  show some (State.mk stack (.number (n * 10 + (d.digitChar.toNat - 48)))) = _
  rw [Nat.toNat_digitChar_sub_48_of_lt_ten hd]

theorem step_firstDigit : ∀ d < 10,
    step ⟨stack, .value⟩ d.digitChar = some ⟨stack, .number d⟩ := by
  intro d hd
  interval_cases d
  all_goals rfl

/-- A decimal numeral is read digit by digit; none but zero begins with a zero. -/
theorem run_toDigits (n : Nat) :
    run ⟨stack, .value⟩ (Nat.toDigits 10 n ++ rest) = run ⟨stack, .number n⟩ rest := by
  induction n using Nat.strongRecOn generalizing rest with
  | _ n ih =>
      by_cases hn : n < 10
      · rw [Nat.toDigits_of_lt_base hn]
        exact run_cons (step_firstDigit n hn)
      · have hmod : n % 10 < 10 := Nat.mod_lt _ (by decide)
        rw [Nat.toDigits_of_base_le (by decide) (by omega), List.append_assoc, ih (n / 10) (by omega)]
        show run _ (_ :: rest) = _
        rw [run_cons (step_number (by omega) hmod), Nat.div_add_mod']

theorem reads_number (n : Nat) : Reads (toString n).toList (.number n) := by
  intro stack c rest hc
  rw [Nat.toString_eq_ofList_toDigits, String.toList_ofList, run_toDigits, run_number hc]

/-! ## Collections -/

/-- How the members of a collection are read: `expect read` waits for the one after `read`, and
`finish read` has seen the end after them. -/
structure Collects {α : Type} (expect finish : List α → State) (closing : Char)
    (ReadsMember : List Char → α → Prop) : Prop where
  blank (read : List α) (c : Char) : isBlank c = true → step (expect read) c = some (expect read)
  comma {text : List Char} {x : α} (read : List α) (rest : List Char) : ReadsMember text x →
    run (expect read) (text ++ ',' :: rest) = run (expect (read ++ [x])) rest
  close {text : List Char} {x : α} (read : List α) (level : Nat) (rest : List Char) :
    ReadsMember text x →
      run (expect read) (text ++ (Json.newLine level ++ closing :: rest))
        = run (finish (read ++ [x])) rest

/-- Members on lines of their own are read one after the other. -/
theorem Collects.run_intercalate {α : Type} {expect finish : List α → State} {closing : Char}
    {ReadsMember : List Char → α → Prop} (h : Collects expect finish closing ReadsMember)
    {texts : List (List Char)} {xs : List α} (hmembers : List.Forall₂ ReadsMember texts xs)
    (hne : xs ≠ []) (read : List α) (inner level : Nat) :
    run (expect read)
        ([','].intercalate (texts.map (Json.newLine inner ++ ·))
          ++ (Json.newLine level ++ closing :: rest))
      = run (finish (read ++ xs)) rest := by
  induction hmembers generalizing read with
  | nil => exact absurd rfl hne
  | @cons text x texts xs hmember hmore ih =>
      -- The last member ends at a line break, every other one at a comma.
      cases hmore with
      | nil =>
          rw [List.map_singleton, List.intercalate_singleton, List.append_assoc,
            run_newLine (h.blank read), h.close read level rest hmember]
      | @cons text' x' texts' xs' hmember' hmore' =>
          have hrest := ih (List.cons_ne_nil _ _) (read ++ [x])
          rw [List.map_cons] at hrest
          rw [List.map_cons, List.map_cons, List.intercalate_cons_cons, List.append_assoc,
            List.append_assoc, List.append_assoc, run_newLine (h.blank read), List.singleton_append,
            h.comma read _ hmember, hrest, List.append_assoc]
          rfl

theorem bracketed_append {level : Nat} {opening closing : Char} {texts : List (List Char)}
    (hne : texts ≠ []) :
    Json.bracketed level opening closing texts ++ rest
      = opening :: ([','].intercalate (texts.map (Json.newLine (level + 1) ++ ·))
        ++ (Json.newLine level ++ closing :: rest)) := by
  have hempty : ¬ texts.isEmpty = true := fun h => hne (List.isEmpty_iff.mp h)
  rw [Json.bracketed, if_neg hempty, List.append_assoc, List.append_assoc]
  rfl

theorem run_done_newLine {json : Json} {level : Nat} {c : Char} :
    run ⟨stack, .done json⟩ (Json.newLine level ++ c :: rest)
      = run ⟨stack, .done json⟩ (c :: rest) :=
  run_newLine fun _ => step_done_of_isBlank

theorem collects_items :
    Collects (fun read => ⟨.array read :: stack, .value⟩) (fun read => ⟨stack, .done (.array read)⟩)
      ']' Reads where
  blank read c hc := step_value_of_isBlank hc
  comma read rest hmember := by
    rw [hmember _ ',' rest rfl]
    exact run_cons rfl
  close read level rest hmember := by
    have hread := hmember (.array read :: stack) '\n'
      (List.replicate (2 * level) ' ' ++ ']' :: rest) rfl
    rw [Json.newLine, List.cons_append, hread, ← List.cons_append, ← Json.newLine, run_done_newLine]
    exact run_cons rfl

theorem reads_array {level : Nat} {items : List Json} {texts : List (List Char)}
    (h : List.Forall₂ Reads texts items) :
    Reads (Json.bracketed level '[' ']' texts) (.array items) := by
  intro stack c rest _
  have hopen : step ⟨stack, .value⟩ '[' = some ⟨.array [] :: stack, .value⟩ := rfl
  cases h with
  | nil =>
      have hclose : step ⟨.array [] :: stack, .value⟩ ']' = some ⟨stack, .done (.array [])⟩ := rfl
      show run _ ('[' :: ']' :: c :: rest) = _
      rw [run_cons hopen, run_cons hclose]
  | cons hmember hmore =>
      rw [bracketed_append (List.cons_ne_nil _ _), run_cons hopen]
      exact collects_items.run_intercalate (.cons hmember hmore) (List.cons_ne_nil _ _) [] _ _

/-- A text is read as a member of an object. -/
def ReadsMember (text : List Char) (member : String × Json) : Prop :=
  ∃ value, text = Json.quoted member.1 ++ [':', ' '] ++ value ∧ Reads value member.2

theorem run_member {members : List (String × Json)} {text : List Char} {member : String × Json}
    {c : Char} (h : ReadsMember text member) (hc : c.isDigit = false) :
    run ⟨stack, .name members⟩ (text ++ c :: rest)
      = run ⟨.object members member.1 :: stack, .done member.2⟩ (c :: rest) := by
  obtain ⟨value, rfl, hvalue⟩ := h
  have hcolon : step ⟨stack, .colon members member.1⟩ ':'
      = some ⟨.object members member.1 :: stack, .value⟩ := rfl
  rw [List.append_assoc, List.append_assoc, run_name]
  show run _ (':' :: ' ' :: (value ++ c :: rest)) = _
  rw [run_cons hcolon, run_cons (step_value_of_isBlank rfl), hvalue _ c rest hc]

theorem collects_members :
    Collects (fun read => ⟨stack, .name read⟩) (fun read => ⟨stack, .done (.object read)⟩)
      '}' ReadsMember where
  blank read c hc := step_name_of_isBlank hc
  comma read rest hmember := by
    rw [run_member hmember rfl]
    exact run_cons rfl
  close read level rest hmember := by
    rw [Json.newLine, List.cons_append, run_member hmember rfl, ← List.cons_append,
      ← Json.newLine, run_done_newLine]
    exact run_cons rfl

theorem reads_object {level : Nat} {members : List (String × Json)} {texts : List (List Char)}
    (h : List.Forall₂ ReadsMember texts members) :
    Reads (Json.bracketed level '{' '}' texts) (.object members) := by
  intro stack c rest _
  have hopen : step ⟨stack, .value⟩ '{' = some ⟨stack, .name []⟩ := rfl
  cases h with
  | nil =>
      have hclose : step ⟨stack, .name []⟩ '}' = some ⟨stack, .done (.object [])⟩ := rfl
      show run _ ('{' :: '}' :: c :: rest) = _
      rw [run_cons hopen, run_cons hclose]
  | cons hmember hmore =>
      rw [bracketed_append (List.cons_ne_nil _ _), run_cons hopen]
      exact collects_members.run_intercalate (.cons hmember hmore) (List.cons_ne_nil _ _) [] _ _

/-! ## The round trip -/

mutual

theorem reads_written (level : Nat) : (json : Json) → Reads (json.written level) json
  | .number n => reads_number n
  | .string text => reads_string text
  | .array items => reads_array (reads_writtenItems (level + 1) items)
  | .object members => reads_object (reads_writtenMembers (level + 1) members)

theorem reads_writtenItems (level : Nat) :
    (items : List Json) → List.Forall₂ Reads (Json.writtenItems level items) items
  | [] => .nil
  | item :: rest => .cons (reads_written level item) (reads_writtenItems level rest)

theorem reads_writtenMembers (level : Nat) :
    (members : List (String × Json)) →
      List.Forall₂ ReadsMember (Json.writtenMembers level members) members
  | [] => .nil
  | (_, value) :: rest =>
      .cons ⟨_, rfl, reads_written level value⟩ (reads_writtenMembers level rest)

end

/-- A value is read back from the text that it is written as, on a line of its own. -/
theorem decode_render (json : Json) : decode (json.render ++ "\n") = some json := by
  have htext : (json.render ++ "\n").toList = json.written 0 ++ ['\n'] := by
    rw [String.toList_append, Json.render, String.toList_ofList]
    rfl
  rw [decode, htext, reads_written 0 json [] '\n' [] rfl, run_cons (step_done_of_isBlank rfl)]
  rfl

end EntitySchema.JsonReader
