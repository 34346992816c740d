/-! Log entries: what is told on the side while a command runs.
-/

set_option autoImplicit false

namespace MemberOrder.Log

inductive Level where
  | error
  | warning
  | info
  | debug
  deriving DecidableEq, Repr

namespace Level

/-- How often more detail has to be asked for until entries of a level are shown. -/
def detail : Level → Nat
  | error => 0
  | warning => 0
  | info => 1
  | debug => 2

def label : Level → String
  | error => "ERROR"
  | warning => " WARN"
  | info => " INFO"
  | debug => "DEBUG"

def color : Level → String
  | error => "31"
  | warning => "33"
  | info => "32"
  | debug => "34"

end Level

structure Entry where
  level : Level
  message : String
  fields : List (String × String)
  deriving DecidableEq, Repr

def paint (styled : Bool) (code text : String) : String :=
  if styled then "\x1b[" ++ code ++ "m" ++ text ++ "\x1b[0m" else text

/-- A character of a message. Those that could steer a terminal are spelled out; line breaks are
not among them. -/
def spell (c : Char) : List Char :=
  let code := c.toNat
  let digits := Nat.toDigits 16 code
  if code = 0x1B ∨ code = 0x7F then "\\x".toList ++ digits
  else if code = 0x7 ∨ code = 0x8 ∨ code = 0xC then "\\x0".toList ++ digits
  else if 0x80 ≤ code ∧ code ≤ 0x9F then "\\u\x7b".toList ++ digits ++ "\x7d".toList
  else [c]

namespace Entry

def isShown (verbosity : Nat) (e : Entry) : Bool := e.level.detail ≤ verbosity

def fieldText (styled : Bool) (field : String × String) : String :=
  " " ++ paint styled "3" field.1 ++ paint styled "2" "=" ++ field.2

def text (styled : Bool) (e : Entry) : String :=
  paint styled e.level.color e.level.label ++ " " ++
    String.ofList (e.message.toList.flatMap spell) ++
    String.join (e.fields.map (fieldText styled))

end Entry

end MemberOrder.Log
