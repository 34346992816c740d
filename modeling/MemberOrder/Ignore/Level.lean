import MemberOrder.Ignore.Rule
import MemberOrder.Path

/-! How the ignore files of several directories work together.

Every directory on the way to an entry is a level with rules of its own. A level sees the path of
the entry from its own directory on. Paths are compared as they are written: a level takes its own
directory off the front of a path only if the path starts with the same characters.
-/

set_option autoImplicit false

namespace MemberOrder.Ignore

/-- The rules that a directory brings: from the file that always counts, from the one that counts in
a repository, and from the repository's own exclusions. -/
structure DirectoryRules where
  always : List Rule
  versioned : List Rule
  excluded : List Rule
  isRepository : Bool

/-- A directory on the way to the entries being judged. One above the directory searched sees
absolute paths. -/
structure Level where
  rules : DirectoryRules
  directory : Path
  isAbove : Bool

structure Entry where
  shown : Text
  absolute : Text
  isDirectory : Bool

def dropFront (front t : Text) : Text := if front.isPrefixOf t then t.drop front.length else t

def dropHere (t : Text) : Text := dropFront ['.', '/'] t

def isHere (directory : Path) : Bool := directory.same ⟨"."⟩

/-- The entry at a path that the search from `root`, which lies at `place`, has met. -/
def Entry.of (root place path : Path) (isDirectory : Bool) : Entry :=
  let shown := dropHere path.text.toList
  let below :=
    if isHere root then shown else dropFront ['/'] (dropFront (dropHere root.text.toList) shown)
  let absolute :=
    if below.head? = some '/' then below else (place.join (String.ofList below)).text.toList
  ⟨shown, absolute, isDirectory⟩

/-- The path of an entry as a level sees it. A path of one name stays as it is. -/
def Level.view (level : Level) (entry : Entry) : Text :=
  let path := dropHere (if level.isAbove then entry.absolute else entry.shown)
  let directory := dropHere level.directory.text.toList
  if isHere ⟨String.ofList directory⟩ || !path.contains '/' then path
  else if directory.isPrefixOf path then dropFront ['/'] (path.drop directory.length)
  else path

def upToRepository : List Level → List Level
  | [] => []
  | level :: rest =>
    if level.rules.isRepository then [level] else level :: upToRepository rest

/-- The nearest level that says something about an entry decides. -/
def judgeLevels (select : DirectoryRules → List Rule) (entry : Entry) (levels : List Level) :
    Option Bool :=
  levels.findSome? fun level =>
    match select level.rules with
    | [] => none
    | rules =>
      judge rules ((level.view entry).flatMap String.utf8EncodeChar) entry.isDirectory

def leavesOut (levels : List Level) (entry : Entry) : Bool :=
  let versioned :=
    if levels.any (·.rules.isRepository) then upToRepository levels else []
  let verdict := (judgeLevels (·.always) entry levels).or <|
    (judgeLevels (·.versioned) entry versioned).or <|
      judgeLevels (·.excluded) entry versioned
  verdict.getD false

end MemberOrder.Ignore
