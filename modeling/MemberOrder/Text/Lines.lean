/-! The lines of a file of bytes.
-/

set_option autoImplicit false

namespace MemberOrder.Text

def lineFeed : UInt8 := 10

def carriageReturn : UInt8 := 13

/-- The lines without their breaks, which are a line feed and a carriage return in front of it. A
break at the end starts no further line. -/
def byteLines : List UInt8 → List (List UInt8)
  | [] => []
  | b :: rest =>
    if b = lineFeed then [] :: byteLines rest
    else if b = carriageReturn ∧ rest.head? = some lineFeed then byteLines rest
    else
      match byteLines rest with
      | [] => [[b]]
      | line :: others => (b :: line) :: others

/-- The lines up to the first that is not text. -/
def lines (data : ByteArray) : List String :=
  (((byteLines data.toList).map fun line => String.fromUTF8? ⟨line.toArray⟩).takeWhile
    Option.isSome).filterMap id

end MemberOrder.Text
