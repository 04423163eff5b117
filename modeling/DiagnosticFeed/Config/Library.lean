import DiagnosticFeed.Config.Reference
import DiagnosticFeed.Config.Settings
import DiagnosticFeed.Disk

/-!
# The library behind the configuration

Reading YAML, putting settings together from arguments and environment, checking them and printing
them are left to a library. The program hands it texts, entries and settings, and answers what comes
back. What follows for the program whatever the library does is stated of any library.
-/

namespace DiagnosticFeed.Config

/-- Checked data, or all that is wrong with it. -/
abbrev Verdict (α : Type) := Except (List FieldIssue) α

/-- Why a text is not read as data. -/
inductive Unread where
  /-- It is no YAML. -/
  | markup
  /-- Reading it fails in another way. -/
  | other (e : Failure)

/-- What the program uses of the library. -/
structure Library where
  /-- The data of a text; a text without any is null. -/
  read : String → Except Unread Datum
  /-- Settings from entries that are given as arguments, with whatever else the library takes them
  from. If they are not valid, all that is wrong is told; building them can also fail as such. -/
  build : Disk → Environment → Entries → Except Failure (Verdict Settings)
  /-- The text that settings are printed as. -/
  dump : Settings → Except Failure String

end DiagnosticFeed.Config
