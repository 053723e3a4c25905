/-!
This module contains the normal form of paths.
-/

namespace CallScope.Path

def parts (path : String) : List String :=
  go [] path.toList
where
  go (part : List Char) : List Char → List String
    | [] => [String.ofList part.reverse]
    | '/' :: cs => String.ofList part.reverse :: go [] cs
    | c :: cs => go (c :: part) cs

/--
The slashes that a normal path begins with. Two stay two, any other number is one.
-/
def root (path : String) : String :=
  match path.toList.takeWhile (· = '/') with
  | [] => ""
  | ['/', '/'] => "//"
  | _ => "/"

/--
Remove empty and `.` parts from a path. The path of nothing is `.`.
-/
def normalize (path : String) : String :=
  match root path ++ "/".intercalate ((parts path).filter fun part => part ≠ "" ∧ part ≠ ".") with
  | "" => "."
  | text => text

end CallScope.Path
