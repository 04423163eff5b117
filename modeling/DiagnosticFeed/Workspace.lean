import DiagnosticFeed.Document

/-!
# Workspace folders

A document belongs to the deepest folder that contains it, or that is the document's own path. A
document without a path belongs to the folder if there is exactly one.
-/

namespace DiagnosticFeed.Workspace

/-- Whether `path` is `root` or lies below it, both in normal form. -/
def contains (root path : String) : Bool :=
  let stem := (root.toList.reverse.dropWhile (· == '/')).reverse
  path == root || (Text.stripStart? (stem ++ ['/']) path.toList).isSome

/-- The folders as they are opened. -/
def open_ (cwd : FilePath) (roots : List FilePath) : List FilePath :=
  roots.map (FilePath.canonical cwd)

/-- The folder of longest text that holds a path; the first of several. -/
def deepest (cwd : FilePath) (path : String) (roots : List FilePath) : Option FilePath :=
  roots.foldl (fun best root ↦
    let text := (FilePath.normalText? cwd root.toText).getD ""
    if contains text path then
      match best with
      | none => some root
      | some b => if b.toText.length < root.toText.length then some root else best
    else best) none

def rootOf (cwd : FilePath) (roots : List FilePath) (d : Document) : Option FilePath :=
  match d.path.bind fun p ↦ FilePath.normalText? cwd p.toText with
  | none => if roots.length == 1 then roots.head? else none
  | some path => deepest cwd path roots

end DiagnosticFeed.Workspace
