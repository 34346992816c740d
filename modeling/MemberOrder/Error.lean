import MemberOrder.Path

/-! What can go wrong while sorting, as causes, and the words for each.
-/

set_option autoImplicit false

namespace MemberOrder

inductive FileFault where
  | notFound
  | notDirectory
  | isDirectory
  | notText
  | tooLarge
  | nameTooLong
  | nulInName
  | absent
  | readOnly
  deriving DecidableEq, Repr

def FileFault.message : FileFault → String
  | notFound => "No such file or directory (os error 2)"
  | notDirectory => "Not a directory (os error 20)"
  | isDirectory => "Is a directory (os error 21)"
  | notText => "stream did not contain valid UTF-8"
  | tooLarge => "File too large (os error 27)"
  | nameTooLong => "File name too long (os error 36)"
  | nulInName => "file name contained an unexpected NUL byte"
  | absent => "no such file"
  | readOnly => "read-only"

inductive ParseFault where
  | noTree
  | nearLine (line : Nat)
  deriving DecidableEq, Repr

def ParseFault.message : ParseFault → String
  | noTree => "parser produced no syntax tree"
  | nearLine line => s!"syntax error near line {line}"

/-- A construct that has no place in the canonical order. -/
inductive Construct where
  | orphanSignature (name : String) (line : Nat)
  | unplaced (nodeKind : String) (line : Nat)
  | overloadedField (name : String)
  deriving DecidableEq, Repr

def Construct.message : Construct → String
  | orphanSignature name line =>
    s!"overload signature `{name}` at line {line} has no implementation"
  | unplaced nodeKind line => s!"`{nodeKind}` at line {line} cannot be reordered"
  | overloadedField name => s!"field `{name}` cannot carry overload signatures"

inductive SortError where
  | parse (path : Path) (fault : ParseFault)
  | unsupported (className : String) (construct : Construct)
  | overloadsRejected (className : String)
  | read (path : Path) (fault : FileFault)
  | write (path : Path) (fault : FileFault)
  deriving DecidableEq, Repr

namespace SortError

def message : SortError → String
  | parse path fault => s!"Parse error in {path.text}: {fault.message}"
  | unsupported className construct =>
    s!"Unsupported construct in class {className}: {construct.message}"
  | overloadsRejected className =>
    s!"Overloads are not supported (class {className}); file skipped"
  | read path fault => s!"Failed to read {path.text}: {fault.message}"
  | write path fault => s!"Failed to write {path.text}: {fault.message}"

def isFileLevel : SortError → Bool
  | unsupported _ _ => false
  | _ => true

end SortError

end MemberOrder
