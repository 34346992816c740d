/-! TOML data: values, tables, and the rules by which keys and headers extend a table.

A table remembers how it came to be, because that decides what may still be added to it: a table
opened by a header is opened once, a table made by a dotted key grows by dotted keys only, and an
inline table is complete as written.
-/

set_option autoImplicit false

namespace MemberOrder.Toml

/-- A float as written, up to its sign: a coefficient and an exponent of ten, or else infinity or no
number. -/
inductive Decimal where
  | finite (coefficient : Nat) (exponent : Int)
  | special
  deriving DecidableEq, Repr

inductive Scalar where
  | string (value : String)
  | integer (value : Int)
  | float (value : Decimal)
  | boolean (value : Bool)
  | dateTime (spelling : String)
  deriving DecidableEq, Repr

/-- How a table came to be: named on the way to a deeper header only, opened by its own header, made
by a dotted key, or written inline. -/
inductive Role where
  | implicit
  | headed
  | dotted
  | inline
  deriving DecidableEq, Repr

inductive Item where
  | scalar (value : Scalar)
  | array (items : List Item)
  | table (role : Role) (entries : List (String × Item))
  | tables (elements : List (List (String × Item)))

/-- The contents of a table. A key occurs once. -/
abbrev Entries := List (String × Item)

abbrev Key := List String

namespace Entries

def set (key : String) (value : Item) (entries : Entries) : Entries :=
  if (entries.lookup key).isSome then
    entries.map fun entry => if entry.1 = key then (key, value) else entry
  else entries ++ [(key, value)]

/-- Adds the value of a dotted key. No value may be there yet, and only tables that dotted keys
made may receive it. The way there may lead through a table that a header implied, or the last
element of an array of tables, if a table of the key's own follows. -/
def insert (value : Item) : Key → Entries → Option Entries
  | [], _ => none
  | [key], entries => if (entries.lookup key).isSome then none else some (entries ++ [(key, value)])
  | key :: next :: rest, entries =>
    match entries.lookup key with
    | none => do
      let inner ← insert value (next :: rest) []
      return entries ++ [(key, .table .dotted inner)]
    | some (.table role inner) =>
      if role = .dotted ∨ (role = .implicit ∧ rest ≠ []) then do
        let inner ← insert value (next :: rest) inner
        return entries.set key (.table role inner)
      else none
    | some (.tables elements) =>
      match elements.reverse with
      | [] => none
      | last :: earlier =>
        if rest ≠ [] then do
          let last ← insert value (next :: rest) last
          return entries.set key (.tables (last :: earlier).reverse)
        else none
    | some _ => none

/-- Changes the table that a header's key leads to, by the last element of each array of tables
on the way. Tables missing on the way are made if `create` allows it. -/
def within (create : Bool) (change : Entries → Option Entries) : Key → Entries → Option Entries
  | [], entries => change entries
  | key :: rest, entries =>
    match entries.lookup key with
    | none =>
      if create then do
        let inner ← within create change rest []
        return entries.set key (.table .implicit inner)
      else none
    | some (.table .inline _) => none
    | some (.table role inner) => do
      let inner ← within create change rest inner
      return entries.set key (.table role inner)
    | some (.tables elements) =>
      match elements.reverse with
      | [] => none
      | last :: earlier => do
        let last ← within create change rest last
        return entries.set key (.tables (last :: earlier).reverse)
    | some _ => none

def openTable (key : String) (entries : Entries) : Option Entries :=
  match entries.lookup key with
  | none => some (entries.set key (.table .headed []))
  | some (.table .implicit inner) => some (entries.set key (.table .headed inner))
  | some _ => none

def openElement (key : String) (entries : Entries) : Option Entries :=
  match entries.lookup key with
  | none => some (entries.set key (.tables [[]]))
  | some (.tables elements) => some (entries.set key (.tables (elements ++ [[]])))
  | some _ => none

end Entries

inductive Statement where
  | pair (key : Key) (value : Item)
  | header (key : Key)
  | elementHeader (key : Key)

/-- A document read so far: all of it, and the header under which the next pair falls. -/
structure Document where
  root : Entries
  current : Key

namespace Document

def empty : Document := ⟨[], []⟩

def openWith (action : String → Entries → Option Entries) (key : Key) (d : Document) :
    Option Document := do
  let name ← key.getLast?
  let root ← d.root.within true (action name) key.dropLast
  return ⟨root, key⟩

def add (d : Document) : Statement → Option Document
  | .pair key value => do
    let root ← d.root.within false (Entries.insert value key) d.current
    return { d with root := root }
  | .header key => d.openWith Entries.openTable key
  | .elementHeader key => d.openWith Entries.openElement key

def ofStatements? (statements : List Statement) : Option Entries :=
  (statements.foldlM Document.add .empty).map (·.root)

end Document

end MemberOrder.Toml
