namespace FlatRecord

namespace Path

/-- The parts of a text between dots; a text without dots is one part. -/
def splitDots : List Char → List (List Char)
  | [] => [[]]
  | c :: rest =>
    if c = '.' then [] :: splitDots rest
    else match splitDots rest with
      | [] => [[c]]
      | part :: parts => (c :: part) :: parts

/-- The keys that a path names, outermost first. -/
def segments (path : String) : List String := (splitDots path.toList).map String.ofList

/-- The path of a key below another path. -/
def child (path key : String) : String := path ++ "." ++ key

/-- The path of a key at the top or below another path. -/
def extend (path : Option String) (key : String) : String :=
  match path with
  | some path => child path key
  | none => key

end Path

end FlatRecord
