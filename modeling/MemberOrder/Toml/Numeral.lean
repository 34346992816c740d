import MemberOrder.Text.Digits
import MemberOrder.Toml.Basic

/-! The unquoted values of TOML: integers, floats, booleans, dates and times.
-/

set_option autoImplicit false

namespace MemberOrder.Toml

open Text (valueInBase)

/-- Digits with single underscores between them, underscores dropped. -/
def digits? (isDigit : Char → Bool) : List Char → Option (List Char)
  | [] => none
  | [c] => if isDigit c then some [c] else none
  | c :: '_' :: rest => if isDigit c then (digits? isDigit rest).map (c :: ·) else none
  | c :: rest => if isDigit c then (digits? isDigit rest).map (c :: ·) else none

def isHexDigit (c : Char) : Bool :=
  c.isDigit || ('a' ≤ c && c ≤ 'f') || ('A' ≤ c && c ≤ 'F')

def isOctalDigit (c : Char) : Bool := '0' ≤ c && c ≤ '7'

def isBinaryDigit (c : Char) : Bool := c == '0' || c == '1'

def decimal? (cs : List Char) : Option (List Char) :=
  match digits? Char.isDigit cs with
  | some ('0' :: _ :: _) => none
  | result => result

def splitSign : List Char → Bool × List Char
  | '-' :: rest => (true, rest)
  | '+' :: rest => (false, rest)
  | cs => (false, cs)

def integer? : List Char → Option Int
  | '0' :: 'x' :: rest => (digits? isHexDigit rest).map fun ds => (valueInBase 16 ds : Int)
  | '0' :: 'o' :: rest => (digits? isOctalDigit rest).map fun ds => (valueInBase 8 ds : Int)
  | '0' :: 'b' :: rest => (digits? isBinaryDigit rest).map fun ds => (valueInBase 2 ds : Int)
  | cs =>
    let (negative, magnitude) := splitSign cs
    (decimal? magnitude).map fun ds =>
      if negative then -(valueInBase 10 ds : Int) else (valueInBase 10 ds : Int)

def isDigitOrBar (c : Char) : Bool := c.isDigit || c == '_'

def exponent? : List Char → Option Int
  | e :: rest =>
    if e = 'e' ∨ e = 'E' then
      let (negative, magnitude) := splitSign rest
      (digits? Char.isDigit magnitude).map fun ds =>
        if negative then -(valueInBase 10 ds : Int) else (valueInBase 10 ds : Int)
    else none
  | [] => none

/-- A number with a fraction, an exponent or both, or one of the special values. -/
def decimalFraction? (cs : List Char) : Option Decimal :=
  let magnitude := (splitSign cs).2
  if magnitude = "inf".toList ∨ magnitude = "nan".toList then some .special
  else do
    let whole ← decimal? (magnitude.takeWhile isDigitOrBar)
    match magnitude.dropWhile isDigitOrBar with
    | '.' :: rest =>
      let fraction ← digits? Char.isDigit (rest.takeWhile isDigitOrBar)
      let after := rest.dropWhile isDigitOrBar
      let exponent ← if after.isEmpty then some 0 else exponent? after
      return .finite (valueInBase 10 (whole ++ fraction)) (exponent - (fraction.length : Int))
    | rest => return .finite (valueInBase 10 whole) (← exponent? rest)

def twoDigits? : List Char → Option (Nat × List Char)
  | a :: b :: rest =>
    if a.isDigit && b.isDigit then some (valueInBase 10 [a, b], rest) else none
  | _ => none

def daysInMonth (year month : Nat) : Nat :=
  if month = 2 then
    if year % 4 = 0 ∧ (year % 100 ≠ 0 ∨ year % 400 = 0) then 29 else 28
  else if month = 4 ∨ month = 6 ∨ month = 9 ∨ month = 11 then 30
  else 31

def afterDate? (cs : List Char) : Option (List Char) := do
  let (century, cs) ← twoDigits? cs
  let (decade, cs) ← twoDigits? cs
  let '-' :: cs := cs | none
  let (month, cs) ← twoDigits? cs
  let '-' :: cs := cs | none
  let (day, cs) ← twoDigits? cs
  let year := century * 100 + decade
  if 1 ≤ month ∧ month ≤ 12 ∧ 1 ≤ day ∧ day ≤ daysInMonth year month then some cs else none

/-- Reads the seconds of a time, which may have a fraction, and returns what follows them. A leap
second counts. -/
def afterSeconds? (cs : List Char) : Option (List Char) := do
  let (second, cs) ← twoDigits? cs
  if 60 < second then none
  else
    match cs with
    | '.' :: fraction =>
      if (fraction.takeWhile Char.isDigit).isEmpty then none
      else some (fraction.dropWhile Char.isDigit)
    | _ => some cs

def afterTime? (cs : List Char) : Option (List Char) := do
  let (hour, cs) ← twoDigits? cs
  let ':' :: cs := cs | none
  let (minute, cs) ← twoDigits? cs
  if 23 < hour ∨ 59 < minute then none
  else
    match cs with
    | ':' :: cs => afterSeconds? cs
    | _ => some cs

def isOffset (cs : List Char) : Bool :=
  match cs with
  | [] => true
  | ['Z'] => true
  | ['z'] => true
  | sign :: rest =>
    (sign == '+' || sign == '-') &&
      match twoDigits? rest with
      | some (hour, ':' :: rest) =>
        match twoDigits? rest with
        | some (minute, []) => hour ≤ 23 && minute ≤ 59
        | _ => false
      | _ => false

def isDateTime (cs : List Char) : Bool :=
  match afterDate? cs with
  | some [] => true
  | some (separator :: time) =>
    (separator == 'T' || separator == 't' || separator == ' ') &&
      (match afterTime? time with
       | some offset => isOffset offset
       | none => false)
  | none => afterTime? cs == some []

def scalar? (word : List Char) : Option Scalar :=
  if word = "true".toList then some (.boolean true)
  else if word = "false".toList then some (.boolean false)
  else
    match integer? word with
    | some value => some (.integer value)
    | none =>
      match decimalFraction? word with
      | some value => some (.float value)
      | none =>
        if isDateTime word then some (.dateTime (String.ofList word)) else none

/-! Which numbers can be held. -/

/-- Half way from the largest double to the next power of two: what is below it rounds to a
double. -/
def doubleLimit : Nat := Nat.pow 2 1024 - Nat.pow 2 970

/-- A decimal that a double can stand for. The digits of the coefficient tell most cases, so that
no power far beyond the limit is computed. -/
def Decimal.fits : Decimal → Bool
  | .special => true
  | .finite coefficient exponent =>
    let magnitude := ((Nat.toDigits 10 coefficient).length : Int) + exponent
    coefficient == 0 || decide (magnitude ≤ 308) ||
      (magnitude == 309 &&
        if 0 ≤ exponent then coefficient * Nat.pow 10 exponent.toNat < doubleLimit
        else coefficient < doubleLimit * Nat.pow 10 (-exponent).toNat)

/-- An integer of 128 bits, signed or not. -/
def integerFits (value : Int) : Bool :=
  -170141183460469231731687303715884105728 ≤ value &&
    value < 340282366920938463463374607431768211456

def Scalar.fits : Scalar → Bool
  | .integer value => integerFits value
  | .float value => value.fits
  | _ => true

mutual

def Item.fits : Item → Bool
  | .scalar value => value.fits
  | .array items => itemsFit items
  | .table _ entries => entriesFit entries
  | .tables elements => elementsFit elements

def itemsFit : List Item → Bool
  | [] => true
  | item :: rest => item.fits && itemsFit rest

def entriesFit : List (String × Item) → Bool
  | [] => true
  | (_, item) :: rest => item.fits && entriesFit rest

def elementsFit : List (List (String × Item)) → Bool
  | [] => true
  | entries :: rest => entriesFit entries && elementsFit rest

end

end MemberOrder.Toml
