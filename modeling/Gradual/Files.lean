import Gradual.Path

/-! The files below the working directory. -/
namespace Gradual

/-- Each file has the parts of its path and its bytes. -/
structure Files where
  entries : List (List String × List UInt8)

namespace Files

def bytes? (files : Files) (parts : List String) : Option (List UInt8) :=
  files.entries.lookup parts

/-- Whether a path below the working directory is that of a file. -/
def holds (files : Files) (working path : Path) : Bool :=
  path.root = working.root && working.parts.isPrefixOf path.parts &&
    (files.bytes? (path.parts.drop working.parts.length)).isSome

/-- The working directory and all that lies on the way to a file. -/
def isDirectory (files : Files) (parts : List String) : Bool :=
  parts.isEmpty || files.entries.any fun entry =>
    parts.isPrefixOf entry.1 && parts.length < entry.1.length

/-- Follows one part of a path from a place. Only a directory leads on, and nothing is known of what
lies above the working directory. -/
def enter (files : Files) (place : List String) (part : String) : Option (List String) :=
  if !files.isDirectory place then none
  else if part = "" ∨ part = "." then some place
  else if part = ".." then if place.isEmpty then none else some place.dropLast
  else some (place ++ [part])

/-- The bytes of the file that a relative path leads to. -/
def read? (files : Files) (path : String) : Option (List UInt8) :=
  match Text.fields '/' path.toList with
  | [] :: _ => none
  | parts => do
    let place ← (parts.map String.ofList).foldlM files.enter []
    files.bytes? place

end Files

end Gradual
