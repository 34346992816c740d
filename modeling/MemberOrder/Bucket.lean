import MemberOrder.Collation
import MemberOrder.Member

/-! The canonical order: nine buckets, and names inside each bucket but one.

Every member belongs to the bucket that its kind, its staticness and its visibility name. Buckets
come in a fixed order; inside a bucket members are sorted by name, and members of one name keep
their places. Constructors are not compared at all.
-/

set_option autoImplicit false

namespace MemberOrder

/-- The member categories in canonical order. -/
inductive Bucket where
  | staticPublicField
  | staticPrivateField
  | staticPublicMethod
  | staticPrivateMethod
  | publicField
  | privateField
  | constructor
  | publicMethod
  | privateMethod
  deriving DecidableEq, Repr

namespace Bucket

def all : List Bucket :=
  [staticPublicField, staticPrivateField, staticPublicMethod, staticPrivateMethod,
    publicField, privateField, constructor, publicMethod, privateMethod]

def rank : Bucket → Nat
  | staticPublicField => 0
  | staticPrivateField => 1
  | staticPublicMethod => 2
  | staticPrivateMethod => 3
  | publicField => 4
  | privateField => 5
  | constructor => 6
  | publicMethod => 7
  | privateMethod => 8

def sortedByName : Bucket → Bool
  | constructor => false
  | _ => true

theorem mem_all (b : Bucket) : b ∈ all := by
  cases b <;> decide

end Bucket

/-- A constructor has one bucket whatever its modifiers. -/
def Member.bucket (m : Member) : Bucket :=
  match m.kind, m.isStatic, m.isPrivate with
  | .constructor, _, _ => .constructor
  | .field, true, false => .staticPublicField
  | .field, true, true => .staticPrivateField
  | .method, true, false => .staticPublicMethod
  | .method, true, true => .staticPrivateMethod
  | .field, false, false => .publicField
  | .field, false, true => .privateField
  | .method, false, false => .publicMethod
  | .method, false, true => .privateMethod

def Buckets := Bucket → List Member

namespace Buckets

def ofMembers (members : List Member) : Buckets :=
  fun b => members.filter (·.bucket = b)

def memberLe (a b : Member) : Bool := Collation.nameLe a.name b.name

def sorted (buckets : Buckets) : Buckets :=
  fun b => if b.sortedByName then (buckets b).mergeSort memberLe else buckets b

def toList (buckets : Buckets) : List Member := Bucket.all.flatMap buckets

def size (buckets : Buckets) : Nat := buckets.toList.length

end Buckets

def canonicalOrder (members : List Member) : List Member :=
  (Buckets.ofMembers members).sorted.toList

end MemberOrder
