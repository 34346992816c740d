import MemberOrder.Class.Canonical
import MemberOrder.Class.Collect
import MemberOrder.SkipTag
import MemberOrder.Source.Splice
import MemberOrder.Tree.Faults

/-! All classes of one source text.

Each class is judged alone: skipped, failed, put into another order, or left. A class that cannot
be sorted does not keep the others from being sorted; a rejected overload does.
-/

set_option autoImplicit false

namespace MemberOrder

inductive ClassOutcome where
  | reordered (className : String) (line : Nat)
  | unchanged (className : String)
  | skipped (className : String)
  | failed (className : String) (error : SortError)
  deriving DecidableEq, Repr

def ClassOutcome.reordered? : ClassOutcome → Option String
  | reordered className _ => some className
  | _ => none

/-- A class with its outcome and, if it was reordered, the text to put in. -/
structure ClassVerdict where
  outcome : ClassOutcome
  replacement : Option Replacement
  deriving DecidableEq, Repr

/-- The verdict on one class; an error is one that concerns the whole file. -/
def ClassDecl.verdict (policy : OverloadPolicy) (skip : ClassFilter) (c : ClassDecl) :
    Except SortError ClassVerdict :=
  if skip c then .ok ⟨.skipped c.displayName, none⟩
  else
    match c.process policy with
    | .error error =>
      if error.isFileLevel then .error error else .ok ⟨.failed c.displayName error, none⟩
    | .ok result =>
      match result.text, c.span with
      | some text, some span => .ok ⟨.reordered c.displayName c.line, some ⟨span, text⟩⟩
      | _, _ => .ok ⟨.unchanged c.displayName, none⟩

structure SourceOutcome where
  contents : Option Text
  classes : List ClassOutcome
  deriving DecidableEq, Repr

def SourceOutcome.reordered (o : SourceOutcome) : List String :=
  o.classes.filterMap ClassOutcome.reordered?

def SourceOutcome.ofVerdicts (source : Text) (verdicts : List ClassVerdict) : SourceOutcome :=
  let replacements := verdicts.filterMap (·.replacement)
  { contents := if replacements.isEmpty then none else some (source.splice replacements)
    classes := verdicts.map (·.outcome) }

def parseClasses (path : Path) (source : Text) (root : Node) :
    Except SortError (List ClassDecl) :=
  match root.fault? with
  | some fault => .error (.parse path fault)
  | none => .ok (collectClasses source root)

def sortSource (path : Path) (source : Text) (root : Node) (policy : OverloadPolicy)
    (skip : ClassFilter) : Except SortError SourceOutcome := do
  let classes ← parseClasses path source root
  let verdicts ← classes.mapM (ClassDecl.verdict policy skip)
  return .ofVerdicts source verdicts

end MemberOrder
