import DiagnosticFeed.Fix
import DiagnosticFeed.Keyed

/-!
# The fix registry

Which fixes belong to which diagnostic. Diagnostics are named by their identity and grouped by the
document they were found in, so that all fixes of a document can be forgotten at once. For each
document the registry also keeps the paths that stand for it in fix edits, its aliases.

A diagnostic that nobody holds any more takes its fixes with it.
-/

namespace DiagnosticFeed

/-- Fixes by diagnostic, diagnostics by document, aliases by document. -/
structure FixRegistry where
  fixes : Keyed Nat (List Fix) := []
  byDocument : Keyed String (List Nat) := []
  aliases : Keyed String (List String) := []
  deriving Inhabited

namespace FixRegistry

/-- How many diagnostics have fixes. -/
def size (r : FixRegistry) : Nat :=
  r.fixes.length

/-- Records the fixes of a diagnostic; an empty list records nothing. -/
def register (r : FixRegistry) (uri : String) (id : Nat) (fixes : List Fix) : FixRegistry :=
  if fixes.isEmpty then r
  else
    let ids := (r.byDocument.get? uri).getD []
    { r with
      fixes := r.fixes.set id fixes
      byDocument := r.byDocument.set uri (if ids.contains id then ids else ids ++ [id]) }

/-- Sets the paths that stand for a document; none takes the entry away. -/
def setAliases (r : FixRegistry) (uri : String) (paths : List String) : FixRegistry :=
  { r with
    aliases := if paths.isEmpty then r.aliases.erase uri else r.aliases.set uri paths.eraseDups }

/-- The paths that stand for a document. -/
def aliasesFor (r : FixRegistry) (uri : String) : List String :=
  (r.aliases.get? uri).getD []

def fixesFor (r : FixRegistry) (id : Nat) : List Fix :=
  (r.fixes.get? id).getD []

/-- Forgets the fixes and aliases of a document. -/
def invalidate (r : FixRegistry) (uri : String) : FixRegistry where
  fixes := ((r.byDocument.get? uri).getD []).foldl Keyed.erase r.fixes
  byDocument := r.byDocument.erase uri
  aliases := r.aliases.erase uri

def clear (_ : FixRegistry) : FixRegistry := {}

/-- Forgets a diagnostic that nobody holds any more. -/
def release (r : FixRegistry) (id : Nat) : FixRegistry :=
  { r with
    fixes := r.fixes.erase id
    byDocument := r.byDocument.map fun e ↦ (e.1, e.2.erase id) }

end FixRegistry

end DiagnosticFeed
