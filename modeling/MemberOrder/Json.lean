/-! JSON values and their two written forms.
-/

set_option autoImplicit false

namespace MemberOrder

/-- An object keeps its fields in the order they are written. -/
inductive Json where
  | bool (value : Bool)
  | nat (value : Nat)
  | string (value : String)
  | array (items : List Json)
  | object (fields : List (String × Json))

namespace Json

def escapeChar (c : Char) : List Char :=
  if c = '"' then ['\\', '"']
  else if c = '\\' then ['\\', '\\']
  else if c = '\n' then ['\\', 'n']
  else if c = '\r' then ['\\', 'r']
  else if c = '\t' then ['\\', 't']
  else if c = '\x08' then ['\\', 'b']
  else if c = '\x0c' then ['\\', 'f']
  else if c.toNat < 0x20 then
    "\\u00".toList ++ [Nat.digitChar (c.toNat / 16), Nat.digitChar (c.toNat % 16)]
  else [c]

def quote (s : String) : String :=
  "\"" ++ String.ofList (s.toList.flatMap escapeChar) ++ "\""

def flagText (b : Bool) : String := if b then "true" else "false"

mutual

def compact : Json → String
  | bool value => flagText value
  | nat value => toString value
  | string value => quote value
  | array items => "[" ++ compactItems items ++ "]"
  | object fields => "\x7b" ++ compactFields fields ++ "\x7d"

def compactItems : List Json → String
  | [] => ""
  | [item] => item.compact
  | item :: rest => item.compact ++ "," ++ compactItems rest

def compactFields : List (String × Json) → String
  | [] => ""
  | [(key, value)] => quote key ++ ":" ++ value.compact
  | (key, value) :: rest => quote key ++ ":" ++ value.compact ++ "," ++ compactFields rest

end

def breakLine (level : Nat) : String := "\n" ++ String.ofList (List.replicate (2 * level) ' ')

mutual

def pretty (level : Nat) : Json → String
  | bool value => flagText value
  | nat value => toString value
  | string value => quote value
  | array [] => "[]"
  | array items => "[" ++ prettyItems (level + 1) items ++ breakLine level ++ "]"
  | object [] => "\x7b\x7d"
  | object fields => "\x7b" ++ prettyFields (level + 1) fields ++ breakLine level ++ "\x7d"

def prettyItems (level : Nat) : List Json → String
  | [] => ""
  | [item] => breakLine level ++ item.pretty level
  | item :: rest => breakLine level ++ item.pretty level ++ "," ++ prettyItems level rest

def prettyFields (level : Nat) : List (String × Json) → String
  | [] => ""
  | [(key, value)] => breakLine level ++ quote key ++ ": " ++ value.pretty level
  | (key, value) :: rest =>
    breakLine level ++ quote key ++ ": " ++ value.pretty level ++ "," ++ prettyFields level rest

end

end Json

end MemberOrder
