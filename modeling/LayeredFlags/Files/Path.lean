/-!
# Paths

A path is a text in which slashes separate names. Paths are joined and cut as texts, without
a look at any file.
-/

namespace LayeredFlags.Path

/-- The parts of a path between its slashes. -/
def parts : List Char → List (List Char)
  | [] => [[]]
  | c :: rest =>
    if c = '/' then [] :: parts rest
    else match parts rest with
      | [] => [[c]]
      | first :: more => (c :: first) :: more

/-- The path starts at the root. -/
def isAbsolute (path : String) : Bool :=
  path.toList.head? == some '/'

/-- A path taken from a base. An absolute path is taken as it is, and an empty base adds
nothing. -/
def join (base path : String) : String :=
  if isAbsolute path || base.isEmpty then path
  else if base.toList.getLast? == some '/' then base ++ path
  else base ++ "/" ++ path

/-- The part adds nothing where it is not the first of a path. -/
def isVoid (part : List Char) : Bool :=
  part == [] || part == ['.']

/-- The parts without those at the end that add nothing. The first part stays. -/
def dropVoid : List (List Char) → List (List Char)
  | [] => []
  | first :: rest => first :: (rest.reverse.dropWhile isVoid).reverse

/-- The directory of a file: the path without its last name, and without the slashes and
dots before that. -/
def parent (path : String) : String :=
  match dropVoid (parts path.toList).dropLast with
  | [] => ""
  | [[]] => "/"
  | kept => String.ofList (List.intercalate ['/'] kept)

end LayeredFlags.Path
