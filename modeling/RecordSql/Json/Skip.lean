import RecordSql.Json.Reader

/-!
Passing over a value that nobody reads. Only its syntax is checked: lists and objects may be nested
to any depth, numbers may be of any size and code units need no partner.
-/

namespace RecordSql.Json

/-- Passes over a value that is neither a list nor an object. -/
def skipScalar : List Char → Except Fault (List Char)
  | [] => .error .endInValue
  | c :: text =>
      if c = 'n' then expectWord "ull".toList text
      else if c = 't' then expectWord "rue".toList text
      else if c = 'f' then expectWord "alse".toList text
      else if c = '"' then Text.skipBody .none text
      else if c = '-' || c.isDigit then Number.skip (c :: text)
      else .error .noValue

/-- Passes over a key and its colon, from the key's quote on. -/
def skipKey (text : List Char) : Except Fault (List Char) :=
  match text with
  | [] => .error .endInObject
  | '"' :: key => do colon (← Text.skipBody .none key)
  | _ => .error .keyNotString

mutual

/-- Passes over a value. Every step takes at least one character, so the length of the text is
enough `fuel`. -/
def skipValue : Nat → List Char → Except Fault (List Char)
  | 0, _ => .error .endInValue
  | fuel + 1, text =>
      match skipBlank text with
      | '[' :: rest =>
          match skipBlank rest with
          | [] => .error .endInList
          | ']' :: rest => .ok rest
          | item => do skipItems fuel (← skipValue fuel item)
      | '\x7b' :: rest =>
          match skipBlank rest with
          | [] => .error .endInObject
          | '\x7d' :: rest => .ok rest
          | key => do skipMembers fuel (← skipValue fuel (← skipKey key))
      | rest => skipScalar rest

/-- Passes over the rest of a list after an item. -/
def skipItems : Nat → List Char → Except Fault (List Char)
  | 0, _ => .error .endInList
  | fuel + 1, text =>
      match skipBlank text with
      | [] => .error .endInList
      | ']' :: rest => .ok rest
      | ',' :: item => do skipItems fuel (← skipValue fuel item)
      | _ => .error .noListSeparator

/-- Passes over the rest of an object after a member. -/
def skipMembers : Nat → List Char → Except Fault (List Char)
  | 0, _ => .error .endInObject
  | fuel + 1, text =>
      match skipBlank text with
      | [] => .error .endInObject
      | '\x7d' :: rest => .ok rest
      | ',' :: key => do skipMembers fuel (← skipValue fuel (← skipKey (skipBlank key)))
      | _ => .error .noObjectSeparator

end

/-- Passes over the next value. -/
def skip (text : List Char) : Except Fault (List Char) := skipValue (text.length + 1) text

end RecordSql.Json
