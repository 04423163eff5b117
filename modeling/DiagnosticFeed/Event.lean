import DiagnosticFeed.Diagnostic
import DiagnosticFeed.Failure
import DiagnosticFeed.Log.Notice

/-!
# Events

What can be seen of the program at work, apart from its state: what it logs, the runs that it
starts, and the results that it hands back.
-/

namespace DiagnosticFeed

/-- Something that can be seen. -/
inductive Event where
  /-- A notice, with the document that was bound when it was logged. -/
  | logged (bound : Option String) (notice : Log.Notice)
  /-- A run is to start, in a directory, on a file with the given content. -/
  | spawned (command : List String) (directory : Option String) (content : Option String)
  /-- An analysis that was asked for directly has ended. -/
  | returned (call : Nat) (result : Except Failure (Option (List Diagnostic)))

/-- Events, the latest first. -/
abbrev Journal := List Event

def Journal.log (j : Journal) (bound : Option String) (n : Log.Notice) : Journal :=
  .logged bound n :: j

/-- The fields that a bound document puts on every record. -/
def boundFields (bound : Option String) : Json.Object :=
  (bound.map fun uri ↦ ("uri", Json.Value.str uri)).toList

end DiagnosticFeed
