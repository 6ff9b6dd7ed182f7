import RecordSql.Json.Cursor

/-!
Strings of JSON: their escapes, the reader of a string's body and the check of a body that nobody
reads. A body is taken one character at a time, and `Escape` tells what the characters before it
demand.
-/

namespace RecordSql.Json.Text

/-- What an escape that has begun still needs. Code units are paired if the first of them is the
`lead` of a pair. -/
inductive Escape where
  | none
  | opened
  | digits (lead : Option Nat) (left : Nat) (unit : Nat)
  | secondBackslash (lead : Nat)
  | secondLetter (lead : Nat)

/-- The character that an escape letter stands for. -/
def unescape? : Char → Option Char
  | '"' => some '"'
  | '\\' => some '\\'
  | '/' => some '/'
  | 'b' => some '\x08'
  | 'f' => some '\x0c'
  | 'n' => some '\n'
  | 'r' => some '\r'
  | 't' => some '\t'
  | _ => none

def hexDigit? (c : Char) : Option Nat :=
  if c.isDigit then some (c.toNat - '0'.toNat)
  else if 'a' ≤ c && c ≤ 'f' then some (c.toNat - 'a'.toNat + 10)
  else if 'A' ≤ c && c ≤ 'F' then some (c.toNat - 'A'.toNat + 10)
  else none

/-- Whether a number of bytes are left. -/
def hasBytes : Nat → List Char → Bool
  | 0, _ => true
  | _ + 1, [] => false
  | bytes + 1, c :: text => hasBytes (bytes + 1 - c.utf8Size) text

def isLead (unit : Nat) : Bool := 0xD800 ≤ unit && unit < 0xDC00

def isTrail (unit : Nat) : Bool := 0xDC00 ≤ unit && unit < 0xE000

/-- What a complete code unit gives: a character, or the wait for the second unit of a pair. -/
def completeUnit (lead : Option Nat) (unit : Nat) : Except Fault (Char ⊕ Escape) :=
  match lead with
  | some lead =>
      if isTrail unit then
        .ok (.inl (Char.ofNat (0x10000 + (lead - 0xD800) * 0x400 + (unit - 0xDC00))))
      else .error .loneSurrogate
  | none =>
      if isTrail unit then .error .loneSurrogate
      else if isLead unit then .ok (.inr (.secondBackslash unit))
      else .ok (.inl (Char.ofNat unit))

/-- Reads the rest of a string and its closing quote. -/
def readBody : Escape → Reader (List Char)
  | _, [] => .error .endInString
  | .none, c :: text =>
      if c = '"' then .ok ([], text)
      else if c = '\\' then readBody .opened text
      else if c.toNat < 0x20 then .error .controlCharacter
      else do
        let (body, rest) ← readBody .none text
        .ok (c :: body, rest)
  | .opened, c :: text =>
      if c = 'u' then
        if hasBytes 4 text then readBody (.digits none 4 0) text else .error .endInString
      else match unescape? c with
        | none => .error .invalidEscape
        | some meant => do
            let (body, rest) ← readBody .none text
            .ok (meant :: body, rest)
  | .digits lead left unit, c :: text =>
      match hexDigit? c with
      | none => .error .invalidEscape
      | some digit =>
          if 1 < left then readBody (.digits lead (left - 1) (16 * unit + digit)) text
          else do
            match ← completeUnit lead (16 * unit + digit) with
            | .inl meant => do
                let (body, rest) ← readBody .none text
                .ok (meant :: body, rest)
            | .inr escape => readBody escape text
  | .secondBackslash lead, c :: text =>
      if c = '\\' then readBody (.secondLetter lead) text else .error .unfinishedSurrogate
  | .secondLetter lead, c :: text =>
      if c = 'u' then
        if hasBytes 4 text then readBody (.digits (some lead) 4 0) text else .error .endInString
      else .error .unfinishedSurrogate

/-- Reads a string after its opening quote. -/
def read : Reader String := fun text => do
  let (body, rest) ← readBody .none text
  .ok (String.ofList body, rest)

/-- Passes over the rest of a string. Code units are not paired. -/
def skipBody : Escape → List Char → Except Fault (List Char)
  | _, [] => .error .endInString
  | .opened, c :: text =>
      if c = 'u' then
        if hasBytes 4 text then skipBody (.digits none 4 0) text else .error .endInString
      else if (unescape? c).isSome then skipBody .none text
      else .error .invalidEscape
  | .digits lead left unit, c :: text =>
      if (hexDigit? c).isNone then .error .invalidEscape
      else if 1 < left then skipBody (.digits lead (left - 1) unit) text
      else skipBody .none text
  | _, c :: text =>
      if c = '"' then .ok text
      else if c = '\\' then skipBody .opened text
      else if c.toNat < 0x20 then .error .controlCharacter
      else skipBody .none text

/-- A character as it is written inside a string. -/
def escapeChar (c : Char) : List Char :=
  match c with
  | '"' => ['\\', '"']
  | '\\' => ['\\', '\\']
  | '\x08' => ['\\', 'b']
  | '\x0c' => ['\\', 'f']
  | '\n' => ['\\', 'n']
  | '\r' => ['\\', 'r']
  | '\t' => ['\\', 't']
  | c =>
      if c.toNat < 0x20 then
        ['\\', 'u', '0', '0', Nat.digitChar (c.toNat / 16), Nat.digitChar (c.toNat % 16)]
      else [c]

/-- A string with its quotes. -/
def write (text : String) : List Char := '"' :: (text.toList.flatMap escapeChar ++ ['"'])

end RecordSql.Json.Text
