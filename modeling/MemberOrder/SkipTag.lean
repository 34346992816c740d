import MemberOrder.Class.Declaration
import MemberOrder.Text.Blank

/-! Classes left as they are.

A class whose doc comment holds the skip tag is not touched. Tag and comment are compared after
every run of blanks in them has become one space, so the tag may be broken over lines.
-/

set_option autoImplicit false

namespace MemberOrder

/-- Says which classes to leave as they are. -/
abbrev ClassFilter := ClassDecl → Bool

namespace SkipTag

def standard : String := "@internal_sort skip"

/-- Whether a doc comment holds the tag. A blank tag is in no comment. -/
def marks (tag : Text) (doc : Text) : Bool :=
  !(Text.normalizeBlanks tag).isEmpty &&
    Text.occursIn (Text.normalizeBlanks tag) (Text.normalizeBlanks doc)

def filter (tag : String) : ClassFilter := fun c =>
  match c.doc with
  | some doc => marks tag.toList doc
  | none => false

def filter? (tag : String) : Option ClassFilter :=
  let trimmed := Text.trim tag.toList
  if trimmed.isEmpty then none else some (filter (String.ofList trimmed))

end SkipTag

def ClassFilter.none : ClassFilter := fun _ => false

end MemberOrder
