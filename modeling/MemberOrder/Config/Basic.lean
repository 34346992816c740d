import MemberOrder.Class.Canonical
import MemberOrder.Formatter
import MemberOrder.SkipTag

/-! Settings of a run. Every one has a standard value, and the command line may override some.
-/

set_option autoImplicit false

namespace MemberOrder

namespace Config

/-- Which files are sorted when none is named. Extensions have no dot, and the patterns are for
paths relative to the directory searched. -/
structure Discovery where
  extensions : List String
  ignore : List String
  deriving DecidableEq, Repr

structure Sorting where
  overloads : OverloadPolicy
  skipTag : String
  deriving DecidableEq, Repr

structure Formatting where
  tool : Formatter
  deriving DecidableEq, Repr

/-- No jobs at all ask for one worker per core. -/
structure Parallel where
  enabled : Bool
  jobs : Nat
  deriving DecidableEq, Repr

end Config

structure Config where
  discovery : Config.Discovery
  sorting : Config.Sorting
  formatter : Config.Formatting
  parallel : Config.Parallel
  deriving DecidableEq, Repr

namespace Config

def standardIgnore : List String :=
  ["node_modules/**", "**/node_modules/**", "dist/**", "coverage/**", ".next/**"]

def standard : Config where
  discovery := ⟨["ts"], standardIgnore⟩
  sorting := ⟨.group, SkipTag.standard⟩
  formatter := ⟨.none⟩
  parallel := ⟨true, 0⟩

structure Overrides where
  formatter : Option Formatter
  overloads : Option OverloadPolicy
  noParallel : Bool
  jobs : Option Nat
  deriving DecidableEq, Repr

def Overrides.none : Overrides := ⟨Option.none, Option.none, false, Option.none⟩

def override (c : Config) (o : Overrides) : Config where
  discovery := c.discovery
  sorting := { c.sorting with overloads := o.overloads.getD c.sorting.overloads }
  formatter := ⟨o.formatter.getD c.formatter.tool⟩
  parallel := ⟨c.parallel.enabled && !o.noParallel, o.jobs.getD c.parallel.jobs⟩

def Sorting.skip (s : Sorting) : ClassFilter := (SkipTag.filter? s.skipTag).getD ClassFilter.none

end Config

end MemberOrder
