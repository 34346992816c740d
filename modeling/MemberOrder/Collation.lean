import MemberOrder.Text.Blank
import MemberOrder.Text.Letter
import MemberOrder.Text.Numeral
import MemberOrder.Text.Case
import MemberOrder.Text.Accent

/-! The order of member names.

Names are compared level by level, and a later level decides only what the earlier ones leave
tied:

1. by class and weight of each character: blanks, then punctuation and symbols (`_` and `-`
   first, `$` last), then numbers, then letters, where a letter counts as its base letter in
   lower case;
2. by accent, letters without one first;
3. by case, lower case first;
4. by the bytes of the UTF-8 encodings.

The first three levels compare the names character by character, and on every level a proper initial
part of a name comes before it.
-/

set_option autoImplicit false

namespace MemberOrder.Collation

def punctuation : List Char :=
  "_-,;:!?.'\"()[]\x7b\x7d@*/\\&#%`^+<=>|~$".toList

/-- Position among the punctuation; a character that is not there comes after all that are, by
code point. -/
def punctuationWeight (c : Char) : Nat :=
  match punctuation.idxOf? c with
  | some index => index
  | none => punctuation.length + c.toNat

inductive CharClass where
  | blank
  | symbol
  | number
  | letter
  deriving DecidableEq, Repr

def CharClass.rank : CharClass → Nat
  | blank => 0
  | symbol => 1
  | number => 2
  | letter => 3

def classOf (c : Char) : CharClass :=
  if Text.isBlank c then .blank
  else if Text.isAlphabetic c then .letter
  else if Text.isNumeric c then .number
  else .symbol

structure PrimaryKey where
  charClass : CharClass
  weight : Nat
  deriving DecidableEq, Repr

def primaryKey (c : Char) : PrimaryKey :=
  match classOf c with
  | .letter => ⟨.letter, ((Text.baseLetter? c).getD (Text.foldCase c)).toNat⟩
  | .symbol => ⟨.symbol, punctuationWeight c⟩
  | charClass => ⟨charClass, c.toNat⟩

def PrimaryKey.compare (a b : PrimaryKey) : Ordering :=
  (Ord.compare a.charClass.rank b.charClass.rank).then (Ord.compare a.weight b.weight)

/-- Zero for a character without a diacritic. -/
def accentWeight (c : Char) : Nat :=
  if (Text.baseLetter? c).isSome then (Text.foldCase c).toNat else 0

def caseRank (c : Char) : Nat := if Text.isUppercase c then 1 else 0

/-- Comparison of two names on one level, lexicographic in the keys of their characters. -/
def compareBy {κ : Type} (compareKeys : κ → κ → Ordering) (key : Char → κ) (a b : String) :
    Ordering :=
  List.compareLex compareKeys (a.toList.map key) (b.toList.map key)

def compareBytes (a b : String) : Ordering :=
  List.compareLex Ord.compare a.toUTF8.data.toList b.toUTF8.data.toList

def compareNames (a b : String) : Ordering :=
  (compareBy PrimaryKey.compare primaryKey a b).then <|
    (compareBy Ord.compare accentWeight a b).then <|
      (compareBy Ord.compare caseRank a b).then <|
        compareBytes a b

def nameLe (a b : String) : Bool := (compareNames a b).isLE

def sortNames (names : List String) : List String := names.mergeSort nameLe

end MemberOrder.Collation
