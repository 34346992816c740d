import MemberOrder.Batch
import MemberOrder.Disk
import MemberOrder.Text.Digits
import MemberOrder.Tree.Rows

/-! Syntax trees kept in files.

The parser leaves the tree of a source next to it, in a file whose name has `.tree` at its end. It
holds a line for each node in preorder, an empty line, and the text that was parsed. A line has
eight columns separated by tabs: the kind, the flags, the field, the first and the last byte offset,
the first and the last row, and the number of children. The flags add up: one for a named node, two
for an error, four for a missing node, eight for a node with an error at or below it.

Because a listing holds its text, a source that was changed after it was parsed has no tree.
-/

set_option autoImplicit false

namespace MemberOrder

namespace Tree

def Row.ofLine? (line : Text) : Option Row :=
  match Text.splitOn '\t' line with
  | [kind, flags, field, start, stop, startRow, endRow, childCount] => do
    let bits ← Text.nat? flags
    let info : NodeInfo :=
      { kind := String.ofList kind
        isNamed := bits.testBit 0
        isError := bits.testBit 1
        isMissing := bits.testBit 2
        hasError := bits.testBit 3
        field := String.ofList field
        span := ⟨← Text.nat? start, ← Text.nat? stop⟩
        startRow := ← Text.nat? startRow
        endRow := ← Text.nat? endRow }
    return ⟨info, ← Text.nat? childCount⟩
  | _ => none

def cutAtEmptyLine : Text → Text × Text
  | [] => ([], [])
  | '\n' :: '\n' :: rest => ([], rest)
  | c :: rest =>
    let (before, after) := cutAtEmptyLine rest
    (c :: before, after)

def ofListing? (listing : Text) : Option (Text × Node) := do
  let (rows, text) := cutAtEmptyLine listing
  let root ← ofRows? (← (Text.splitOn '\n' rows).mapM Row.ofLine?)
  return (text, root)

def listingSuffix : String := ".tree"

def listingOf (source : Path) : Path := ⟨source.text ++ listingSuffix⟩

def sourceOf? (listing : Path) : Option Path :=
  let name := listing.text.toList
  let suffix := listingSuffix.toList
  if suffix.isSuffixOf name then some ⟨String.ofList (name.take (name.length - suffix.length))⟩
  else none

end Tree

def Disk.listedTree? (d : Disk) (listing : Path) : Option ((Grammar × Text) × Node) := do
  let source ← Tree.sourceOf? listing
  let (text, root) ← Tree.ofListing? (← (d.read listing).toOption).toList
  return (((Variant.ofPath source).grammar, text), root)

def Disk.parser (d : Disk) : Parser :=
  let trees := (d.root.allFiles []).filterMap fun (place, _) => d.listedTree? (Disk.pathOf place)
  fun grammar text => trees.lookup (grammar, text)

end MemberOrder
