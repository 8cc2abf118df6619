import Gradual.Text.Fields

/-! File paths: a root and the parts below it. Empty parts and `.` are dropped when a path is read;
`..` stays until the path is resolved. -/
namespace Gradual

/-- A path is absolute when its root is `/`, or `//` where exactly two slashes began it. -/
structure Path where
  root : String
  parts : List String
  deriving DecidableEq

namespace Path

def rootOf : List Char → String
  | '/' :: '/' :: '/' :: _ => "/"
  | '/' :: '/' :: _ => "//"
  | '/' :: _ => "/"
  | _ => ""

def ofString (text : String) : Path where
  root := rootOf text.toList
  parts := ((Text.fields '/' text.toList).map String.ofList).filter fun part =>
    part ≠ "" ∧ part ≠ "."

def isAbsolute (p : Path) : Bool := p.root ≠ ""

def render (p : Path) : String :=
  let below := "/".intercalate p.parts
  if p.root ++ below = "" then "." else p.root ++ below

def child (p : Path) (name : String) : Path := { p with parts := p.parts ++ [name] }

/-- The directories on the way to a path, from the root on. -/
def ancestors (p : Path) : List Path :=
  (List.range p.parts.length).map fun n => { p with parts := p.parts.take n }

/-- The path that starts at `base` unless it has a root of its own. -/
def under (base p : Path) : Path :=
  if p.isAbsolute then p else { base with parts := base.parts ++ p.parts }

/-- Goes up for every `..`, and stays where nothing is above. -/
def climb (reached : List String) (part : String) : List String :=
  if part = ".." then reached.dropLast else reached ++ [part]

def collapse (p : Path) : Path := { p with parts := p.parts.foldl climb [] }

/-- Replaces a first part `~` by the home directory; `~name`, the home of another user, is unknown. -/
def expandHome (p home : Path) : Option Path :=
  match p.isAbsolute, p.parts with
  | false, first :: rest =>
    if first = "~" then some { home with parts := home.parts ++ rest }
    else if first.startsWith "~" then none
    else some p
  | _, _ => some p

end Path

end Gradual
