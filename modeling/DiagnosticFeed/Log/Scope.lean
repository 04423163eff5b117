import DiagnosticFeed.Keyed

/-!
# Logging scopes

Work that goes on by itself logs in a scope of its own. A scope begins with what is bound where it
is opened; what is bound in it later is seen in this scope alone.
-/

namespace DiagnosticFeed.Log

/-- A scope: the document that was bound where it was opened, and the one that is bound in it. -/
structure Scope where
  inherited : Option String := none
  bound : Option String := none
  deriving DecidableEq

/-- Scopes by the number of the work that logs in them. -/
abbrev Scopes := Keyed Nat Scope

namespace Scopes

/-- The scope of a number. Where none was opened nothing is bound. -/
def scope (l : Scopes) (id : Nat) : Scope :=
  (Keyed.get? l id).getD {}

/-- Opens a scope where a document may be bound. -/
def start (l : Scopes) (id : Nat) (bound : Option String) : Scopes :=
  Keyed.set l id ⟨bound, bound⟩

/-- Binds a document in a scope. -/
def bind (l : Scopes) (id : Nat) (uri : String) : Scopes :=
  Keyed.set l id { l.scope id with bound := some uri }

/-- Ends what is bound in a scope. What was bound where it was opened does not come back. -/
def unbind (l : Scopes) (id : Nat) : Scopes :=
  Keyed.set l id { l.scope id with bound := none }

variable (l : Scopes) (id i : Nat)

theorem scope_set (c : Scope) :
    scope (Keyed.set l id c) i = if id = i then c else l.scope i := by
  rw [scope, Keyed.get?_set]
  split <;> rfl

theorem scope_start (bound : Option String) :
    (l.start id bound).scope i = if id = i then ⟨bound, bound⟩ else l.scope i :=
  scope_set l id i _

theorem scope_bind (uri : String) : (l.bind id uri).scope i =
    if id = i then { l.scope id with bound := some uri } else l.scope i :=
  scope_set l id i _

theorem scope_unbind : (l.unbind id).scope i =
    if id = i then { l.scope id with bound := none } else l.scope i :=
  scope_set l id i _

end Scopes

end DiagnosticFeed.Log
