import DiagnosticFeed.Config.Layer
import DiagnosticFeed.Json.Writer
import DiagnosticFeed.Yaml.Meaning

/-!
# The library that is installed

The library with which the program is run: its YAML, its sources of settings and its checks, as far
as files and variables of the usual forms go. It does not look into files or directories with
further variables, nor at arguments that stand for variables.
-/

namespace DiagnosticFeed.Config

/-- Why a text with a fault is not read. Scalars without a value and data that lies too deep do not
make a text something else than YAML. -/
def Unread.ofFault : Yaml.Fault → Unread
  | .noValue why => .other (.unreadableScalar why)
  | .tooDeep => .other .tooDeep
  | _ => .markup

def Library.installed : Library where
  read s := (Yaml.read s).mapError .ofFault
  build := layered
  dump s := .ok (s.toJson.indented .unicode)

end DiagnosticFeed.Config
