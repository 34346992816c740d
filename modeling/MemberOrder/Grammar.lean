import MemberOrder.Path

/-! Which grammar a file is read with, and which files only declare types.
-/

set_option autoImplicit false

namespace MemberOrder

inductive Variant where
  | javaScript
  | jsx
  | typeScript
  | tsx
  deriving DecidableEq, Repr

inductive Grammar where
  | javascript
  | typescript
  | tsx
  deriving DecidableEq, Repr

def Grammar.label : Grammar → String
  | javascript => "javascript"
  | typescript => "typescript"
  | tsx => "tsx"

namespace Variant

def ofExtension? : String → Option Variant
  | "js" | "mjs" | "cjs" => some javaScript
  | "jsx" => some jsx
  | "ts" | "mts" | "cts" => some typeScript
  | "tsx" => some tsx
  | _ => none

/-- Files with an unknown extension, or none, are read as TypeScript. -/
def ofPath (p : Path) : Variant := (p.extension?.bind ofExtension?).getD typeScript

def grammar : Variant → Grammar
  | javaScript => .javascript
  | jsx => .javascript
  | typeScript => .typescript
  | tsx => .tsx

end Variant

def Path.isDeclaration (p : Path) : Bool :=
  match p.fileName? with
  | some name =>
    [".d.ts", ".d.mts", ".d.cts"].any fun ending => ending.toList.isSuffixOf name.toList
  | none => false

end MemberOrder
