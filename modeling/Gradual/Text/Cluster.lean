import Gradual.Text.Columns

/-! Clusters: characters that a console shows as one and that are not cut apart. A cluster is a character
with the marks after it and with whatever is joined to it; it takes the columns of its first character, or
two if that one is to be shown as an emoji. -/
namespace Gradual.Text

/-- Joins the next character to the cluster before it. -/
def joiner : Char := '\u200d'

/-- Asks for the character before it to be shown as an emoji. -/
def emojiSelector : Char := '\ufe0f'

structure Cluster where
  chars : List Char
  columns : Nat
  /-- Whether it takes one more column when it is shown as an emoji. -/
  canWiden : Bool

namespace Cluster

def empty : Cluster := ⟨[], 0, false⟩

def ofChar (c : Char) : Cluster := ⟨[c], columnsOfChar c, isWithin widenedRanges c⟩

def append (cluster : Cluster) (chars : List Char) : Cluster :=
  { cluster with chars := cluster.chars ++ chars }

def widen (cluster : Cluster) : Cluster :=
  { cluster with columns := cluster.columns + cluster.canWiden.toNat, canWiden := false }

/-- The clusters of a text that goes on after the beginning of a cluster. -/
def ofCharsAfter (current : Cluster) : List Char → List Cluster
  | [] => [current]
  | c :: rest =>
    if c = joiner then
      match rest with
      | [] => [current.append [c]]
      | joined :: later => ofCharsAfter (current.append [c, joined]) later
    else if c = emojiSelector then ofCharsAfter (current.widen.append [c]) rest
    else if columnsOfChar c = 0 then ofCharsAfter (current.append [c]) rest
    else current :: ofCharsAfter (ofChar c) rest

/-- The clusters of a text; what stands at its beginning joins nothing. -/
def ofChars : List Char → List Cluster
  | [] => []
  | c :: rest => ofCharsAfter (ofChar c) rest

end Cluster

/-- The columns of a text. A joiner at its beginning hides the character that it joins. -/
def columns (text : List Char) : Nat :=
  (Cluster.ofCharsAfter Cluster.empty text).foldr (fun cluster total => cluster.columns + total) 0

end Gradual.Text
