import ContractCall.Text.Pieces

/-!
# Files

A tree of folders given by the list of its text files with their paths. `look` follows a path
through it from the outermost folder: a point stays where it is, two points lead back out, perhaps
out of the tree, and a file leads nowhere further. A path from the root starts outside of the tree.
-/

namespace ContractCall

/-- What a path leads to. -/
inductive Node where
  | missing
  | folder
  /-- A file that cannot be read as text. -/
  | unreadable
  | text (content : String)
deriving DecidableEq

namespace Node

/-- The content of a file. -/
def content? : Node → Option String
  | text content => some content
  | _ => none

end Node

/-- Text files, each with the names of the folders that lead to it and its own. -/
abbrev Files := List (List (List Char) × String)

namespace Files

/-- The files with these paths. -/
def ofList (files : List (String × String)) : Files :=
  files.map fun f => ((Text.pieces '/' f.1.toList).filter fun p => p != [] && p != ['.'], f.2)

/-- The content of the file at this place. -/
def file? (files : Files) (place : List (List Char)) : Option String :=
  (files.find? fun f => f.1 == place).map Prod.snd

/-- There is a folder at this place. -/
def isFolder (files : Files) (place : List (List Char)) : Bool :=
  place.isEmpty || files.any fun f => place.isPrefixOf f.1 && f.1 != place

/-- What the rest of a path leads to from a folder of the tree, or from one around it, of which only
the folders further out are known. -/
def follow (files : Files) (outside : Bool) (place : List (List Char)) : List (List Char) → Node
  | [] => .folder
  | part :: rest =>
    if part = [] ∨ part = ['.'] then follow files outside place rest
    else if part = ['.', '.'] then
      follow files (outside || place.isEmpty) place.dropLast rest
    else if outside then .missing
    else
      let next := place ++ [part]
      match file? files next, rest with
      | some content, [] => .text content
      | some _, _ :: _ => .missing
      | none, _ => if isFolder files next then follow files outside next rest else .missing

/-- What a path leads to. The empty path stays in the outermost folder. -/
def look (files : Files) (path : String) : Node :=
  match Text.pieces '/' path.toList with
  | [] :: [] => .folder
  | [] :: parts => follow files true [] parts
  | parts => follow files false [] parts

end Files

end ContractCall
