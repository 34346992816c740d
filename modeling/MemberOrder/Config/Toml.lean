import MemberOrder.Config.Basic
import MemberOrder.Toml.Document

/-! Settings written in TOML.

A section that is missing, or a key missing in a section, has its standard value. An unknown
section is an error; an unknown key in a section is not, as long as its numbers can be held. A
section may also be written as an array that lists its values by position, and a date or time
counts as a section that sets nothing.
-/

set_option autoImplicit false

namespace MemberOrder

namespace Toml.Item

def string? : Item → Option String
  | scalar (.string value) => some value
  | _ => none

def boolean? : Item → Option Bool
  | scalar (.boolean value) => some value
  | _ => none

def count? : Item → Option Nat
  | scalar (.integer value) =>
    if 0 ≤ value ∧ value.toNat < Text.wordLimit then some value.toNat else none
  | _ => none

def strings? : Item → Option (List String)
  | array items => items.mapM string?
  | _ => none

/-- One of some named choices: its name, or a table of that one key with nothing in it. -/
def choice? {α : Type} (choices : List (String × α)) : Item → Option α
  | scalar (.string name) => choices.lookup name
  | table _ [(name, table _ [])] => choices.lookup name
  | table _ [(name, array [])] => choices.lookup name
  | _ => none

/-- The value in a section under a key, or at its position when the section is an array. The
outer option says whether this can be a section. -/
def part? (key : String) (position : Nat) : Item → Option (Option Item)
  | table _ entries => some (entries.lookup key)
  | array items => some items[position]?
  | tables elements => some (elements[position]?.map (table .headed))
  | scalar (.dateTime _) => some none
  | scalar _ => none

def setting? {α : Type} (block : Item) (key : String) (position : Nat)
    (read : Item → Option α) (standard : α) : Option α :=
  match block.part? key position with
  | none => none
  | some none => some standard
  | some (some item) => read item

/-- The keys of a section other than these have values that can be held. -/
def restFits (known : List String) : Item → Bool
  | table _ entries => entries.all fun entry => known.contains entry.1 || entry.2.fits
  | _ => true

end Toml.Item

namespace Config

def policies : List (String × OverloadPolicy) := [("group", .group), ("reject", .reject)]

def formatters : List (String × Formatter) :=
  [("none", .none), ("prettier", .prettier), ("biome", .biome)]

open Toml (Item)

def Discovery.ofItem? (item : Item) : Option Discovery := do
  guard (item.restFits ["extensions", "ignore"])
  return {
    extensions := ← item.setting? "extensions" 0 Item.strings? standard.discovery.extensions
    ignore := ← item.setting? "ignore" 1 Item.strings? standard.discovery.ignore }

def Sorting.ofItem? (item : Item) : Option Sorting := do
  guard (item.restFits ["overloads", "skip_tag"])
  return {
    overloads := ← item.setting? "overloads" 0 (Item.choice? policies) standard.sorting.overloads
    skipTag := ← item.setting? "skip_tag" 1 Item.string? standard.sorting.skipTag }

def Formatting.ofItem? (item : Item) : Option Formatting := do
  guard (item.restFits ["tool"])
  return {
    tool := ← item.setting? "tool" 0 (Item.choice? formatters) standard.formatter.tool }

def Parallel.ofItem? (item : Item) : Option Parallel := do
  guard (item.restFits ["enabled", "jobs"])
  return {
    enabled := ← item.setting? "enabled" 0 Item.boolean? standard.parallel.enabled
    jobs := ← item.setting? "jobs" 1 Item.count? standard.parallel.jobs }

def sectionNames : List String := ["discovery", "sorting", "formatter", "parallel"]

def ofEntries? (root : Toml.Entries) : Option Config :=
  if root.all (sectionNames.contains ·.1) then do
    let document := Item.table .headed root
    return {
      discovery := ← document.setting? "discovery" 0 Discovery.ofItem? standard.discovery
      sorting := ← document.setting? "sorting" 1 Sorting.ofItem? standard.sorting
      formatter := ← document.setting? "formatter" 2 Formatting.ofItem? standard.formatter
      parallel := ← document.setting? "parallel" 3 Parallel.ofItem? standard.parallel }
  else none

def ofToml? (document : String) : Option Config := (Toml.parse? document).bind ofEntries?

/-! Writing settings. -/

def policyLabel : OverloadPolicy → String
  | .group => "group"
  | .reject => "reject"

def formatterLabel : Formatter → String
  | .none => "none"
  | .prettier => "prettier"
  | .biome => "biome"

def escapeChar (c : Char) : List Char :=
  if c = '"' then ['\\', '"']
  else if c = '\\' then ['\\', '\\']
  else if c = '\n' then ['\\', 'n']
  else if c = '\t' then ['\\', 't']
  else if c = '\r' then ['\\', 'r']
  else if Toml.isControl c then
    "\\u00".toList ++ [Nat.digitChar (c.toNat / 16), Nat.digitChar (c.toNat % 16)]
  else [c]

def quote (s : String) : String :=
  "\"" ++ String.ofList (s.toList.flatMap escapeChar) ++ "\""

def listText : List String → String
  | [] => "[]"
  | [s] => "[" ++ quote s ++ "]"
  | values => "[\n" ++ String.join (values.map fun s => "    " ++ quote s ++ ",\n") ++ "]"

def flagText (b : Bool) : String := if b then "true" else "false"

def toToml (c : Config) : String :=
  "[discovery]\nextensions = " ++ listText c.discovery.extensions ++
  "\nignore = " ++ listText c.discovery.ignore ++
  "\n\n[sorting]\noverloads = " ++ quote (policyLabel c.sorting.overloads) ++
  "\nskip_tag = " ++ quote c.sorting.skipTag ++
  "\n\n[formatter]\ntool = " ++ quote (formatterLabel c.formatter.tool) ++
  "\n\n[parallel]\nenabled = " ++ flagText c.parallel.enabled ++
  "\njobs = " ++ toString c.parallel.jobs ++ "\n"

end Config

end MemberOrder
