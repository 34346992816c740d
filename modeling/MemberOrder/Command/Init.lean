import MemberOrder.Command.Sort

/-! The command that writes a new settings file.
-/

set_option autoImplicit false

namespace MemberOrder.Command

def initialSettings : String := "# tidyclass configuration\n\n" ++ Config.standard.toToml

/-- Writes the standard settings into a directory. A file that is there is overwritten only if
that is forced. -/
def init (root : Path) (force : Bool) (world : World) : Except Error (Path × World) :=
  let path := root.join Config.fileName
  if world.disk.isFile path && !force then .error .configExists
  else
    match world.disk.write path initialSettings with
    | (.ok (), disk) => .ok (path, { world with disk := disk })
    | (.error fault, _) => .error (.configNotWritten fault)

end MemberOrder.Command
