import TransformerEngine.Text.Ending

/-!
# Paths

Paths are read as they are written, without looking at a file system: slashes separate
names, empty names and `.` say nothing, and a slash in front makes a path absolute.

`resolve` reads one path from a directory and takes out its `..` parts. A `..` takes back
the name in front of it, whatever that name is; where no name is in front of it, it
stays. `parent` drops the last name and leaves the rest as it was written.
-/

namespace TransformerEngine.Path

/-- Whether a path starts at the root. -/
def isAbsolute (path : String) : Bool := Text.hasStart path "/"

/-- The parts between the slashes of a path. -/
def parts : List Char → List (List Char)
  | [] => [[]]
  | c :: rest =>
    if c = '/' then [] :: parts rest
    else
      match parts rest with
      | part :: others => (c :: part) :: others
      | [] => [[c]]

/-- The names of a path, `..` among them. -/
def components (path : String) : List String :=
  ((parts path.toList).map String.ofList).filter fun part => part ≠ "" && part ≠ "."

/-- One name more: `..` takes back the name in front of it if there is one. The names are
kept in reverse. -/
def push (names : List String) (name : String) : List String :=
  if name = ".." then
    match names with
    | _ :: before => before
    | [] => [".."]
  else name :: names

/-- The path of `names`, from the root or from where one stands. -/
def ofNames (absolute : Bool) (names : List String) : String :=
  (if absolute then "/" else "") ++ String.intercalate "/" names

/-- The path without empty names and `.`, and with each `..` taken out that has a name in
front of it. -/
def normalize (path : String) : String :=
  ofNames (isAbsolute path) ((components path).foldl push []).reverse

/-- The path that `path` is when it is read from `directory`. -/
def join (directory path : String) : String :=
  if isAbsolute path then path
  else if directory = "" || Text.hasEnding directory "/" then directory ++ path
  else directory ++ "/" ++ path

/-- `path` read from `directory` and normalized. -/
def resolve (directory path : String) : String := normalize (join directory path)

/-! ### The directory of a file -/

/-- Without the slashes and `/.` parts at the end of a path, which is kept in reverse. -/
def dropIdleEnd : List Char → List Char
  | '/' :: rest => dropIdleEnd rest
  | '.' :: '/' :: rest => dropIdleEnd rest
  | path => path

/-- The directory that a path's last name lies in; empty if the path is a name alone. -/
def parent (path : String) : String :=
  let name := (dropIdleEnd path.toList.reverse).dropWhile (· != '/')
  let directory := dropIdleEnd name
  if directory = [] && isAbsolute path && name ≠ [] then "/"
  else String.ofList directory.reverse

end TransformerEngine.Path
