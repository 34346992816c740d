import MemberOrder.Class.Entry

/-! Overload signatures joined to the implementation they precede.

A run of signatures of one name belongs to the method or constructor of that name that follows
the run directly. Any other signature is an orphan and a handle of its own.
-/

set_option autoImplicit false

namespace MemberOrder

def Entry.implements (waiting : List Entry) (e : Entry) : Bool :=
  match e.shape, waiting with
  | .member .method, first :: _ => first.name == e.name
  | .member .constructor, first :: _ => first.name == e.name
  | _, _ => false

def orphans (source : Text) (waiting : List Entry) : List Handle :=
  waiting.map (Entry.toHandle source [])

/-- Groups the entries, with `waiting` the signatures just read. -/
def groupFrom (source : Text) : List Entry → List Entry → List Handle
  | waiting, [] => orphans source waiting
  | waiting, e :: rest =>
    if e.shape = .signature then
      match waiting.getLast? with
      | some last =>
        if last.name = e.name then groupFrom source (waiting ++ [e]) rest
        else orphans source waiting ++ groupFrom source [e] rest
      | none => groupFrom source [e] rest
    else if e.implements waiting then
      e.toHandle source (waiting.map (Entry.text source)) :: groupFrom source [] rest
    else
      orphans source waiting ++ e.toHandle source [] :: groupFrom source [] rest

def groupOverloads (source : Text) (entries : List Entry) : List Handle :=
  groupFrom source [] entries

end MemberOrder
