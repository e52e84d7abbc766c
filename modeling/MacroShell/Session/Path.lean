import MacroShell.Text.Basic

/-!
# Paths

Paths have slashes between their components. They are made absolute and normal by their text
alone; two slashes at the front, but not three, are kept.
-/

namespace MacroShell
namespace Path

/-- A path that starts from a directory, unless it is absolute. -/
def join (directory path : Text) : Text :=
  if path.head? = some '/' then path
  else if directory.isEmpty || directory.getLast? = some '/' then directory ++ path
  else directory ++ '/' :: path

def root : Text → Text
  | '/' :: '/' :: '/' :: _ => ['/']
  | '/' :: '/' :: _ => ['/', '/']
  | '/' :: _ => ['/']
  | _ => []

/-- Adds a component to the normal components before it, which are given in reverse. A component
`..` takes the one before it away; at the front of a path that is not absolute it stays. -/
def push (absolute : Bool) (components : List Text) (component : Text) : List Text :=
  if component.isEmpty || component = ['.'] then components
  else if component = ['.', '.'] then
    match components with
    | [] => if absolute then [] else [component]
    | last :: before => if last = ['.', '.'] then component :: components else before
  else component :: components

def components (path : Text) : List Text :=
  ((path.splitOn (· == '/')).foldl (push (!(root path).isEmpty)) []).reverse

/-- A path without empty components, single dots and double dots that can be resolved. -/
def normalise (path : Text) : Text :=
  match root path ++ Text.join ['/'] (components path) with
  | [] => ['.']
  | normal => normal

def resolve (directory path : Text) : Text := normalise (join directory path)

end Path
end MacroShell
