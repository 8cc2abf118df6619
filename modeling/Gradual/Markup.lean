import Gradual.Markup.Emoji
import Gradual.Text.Blank
import Gradual.Text.Cluster
import Gradual.Text.Fields

/-! Console markup, where a tag in brackets does not appear and an emoji can be written by its name. A
text that is to appear as it stands has its tags escaped. Even so, a name of an emoji in it is replaced, a
backslash before a bracket that begins no tag is lost, and one at its end is doubled. -/
namespace Gradual.Markup

/-- The tag at the start of a text and what follows it. -/
def tag? : List Char → Option (List Char × List Char)
  | '[' :: c :: rest =>
    if c.isLower || c = '#' || c = '/' || c = '@' then
      let inTag := fun d => d ≠ '[' && d ≠ ']'
      match rest.dropWhile inTag with
      | ']' :: later => some ('[' :: c :: rest.takeWhile inTag ++ [']'], later)
      | _ => none
    else none
  | _ => none

theorem length_tag? {text tag later : List Char} (found : tag? text = some (tag, later)) :
    later.length < text.length := by
  unfold tag? at found
  split at found
  · rename_i c rest
    dsimp only at found
    split at found
    · split at found
      · rename_i tail atEnd
        cases found
        have shorter := (List.dropWhile_suffix (l := rest) fun d => d ≠ '[' && d ≠ ']').length_le
        rw [atEnd] at shorter
        simp only [List.length_cons] at shorter ⊢
        omega
      · cases found
    · cases found
  · cases found

theorem tag?_of_not_mem {text : List Char} (noBracket : '[' ∉ text) : tag? text = none := by
  unfold tag?
  split
  · exact absurd List.mem_cons_self noBracket
  · rfl

def isBackslash (c : Char) : Bool := c = '\\'

theorem length_tag?_dropWhile {text tag later : List Char}
    (found : tag? (text.dropWhile isBackslash) = some (tag, later)) : later.length < text.length :=
  Nat.lt_of_lt_of_le (length_tag? found) (List.dropWhile_suffix isBackslash).length_le

theorem tag?_dropWhile_of_not_mem {text : List Char} (noBracket : '[' ∉ text) :
    tag? (text.dropWhile isBackslash) = none :=
  tag?_of_not_mem fun member => noBracket ((List.dropWhile_suffix isBackslash).subset member)

/-- Puts a backslash before each tag and doubles those that stand there already. -/
def escapeTags (text : List Char) : List Char :=
  match text with
  | [] => []
  | c :: rest =>
    let slashes := (c :: rest).takeWhile isBackslash
    match _found : tag? ((c :: rest).dropWhile isBackslash) with
    | some (tag, later) => slashes ++ slashes ++ '\\' :: tag ++ escapeTags later
    | none => c :: escapeTags rest
termination_by text.length
decreasing_by
  · exact length_tag?_dropWhile _found
  · simp

/-- A text without brackets has no tags. -/
theorem escapeTags_of_not_mem {text : List Char} (noBracket : '[' ∉ text) :
    escapeTags text = text := by
  induction text with
  | nil => rw [escapeTags.eq_def]
  | cons c rest ih =>
    have none := tag?_dropWhile_of_not_mem noBracket
    rw [escapeTags.eq_def]
    simp only
    split
    next found =>
      rw [none] at found
      cases found
    next => rw [ih fun member => noBracket (List.mem_cons_of_mem c member)]

/-- A text that ends in exactly one backslash gets a second one, lest it escape what comes next. -/
def guardEnd (text : List Char) : List Char :=
  match text.reverse with
  | '\\' :: '\\' :: _ => text
  | '\\' :: _ => text ++ ['\\']
  | _ => text

def escape (text : List Char) : List Char := guardEnd (escapeTags text)

theorem escape_of_not_mem {text : List Char} (noBracket : '[' ∉ text) (noBackslash : '\\' ∉ text) :
    escape text = text := by
  rw [escape, escapeTags_of_not_mem noBracket]
  unfold guardEnd
  have noBackslash : '\\' ∉ text.reverse := fun member => noBackslash (List.mem_reverse.mp member)
  split
  next same => simp [same] at noBackslash
  next same => simp [same] at noBackslash
  next => rfl

/-- A stretch of text, or a tag with its position. -/
inductive Part where
  | text (chars : List Char)
  | tag (chars : List Char) (position : Nat)

/-- Puts a character before some parts, the first of which is text. -/
def Part.prepend (c : Char) : List Part → List Part
  | .text chars :: parts => .text (c :: chars) :: parts
  | parts => .text [c] :: parts

/-- The parts of a markup text from a position on. Of the backslashes before a tag two make one, and
one that is left over makes the tag a text. -/
def parts (position : Nat) (markup : List Char) : List Part :=
  match markup with
  | [] => [.text []]
  | c :: rest =>
    let slashes := ((c :: rest).takeWhile isBackslash).length
    match _found : tag? ((c :: rest).dropWhile isBackslash) with
    | some (tag, later) =>
      [.text [], .text (List.replicate (slashes / 2) '\\'),
        if slashes % 2 = 0 then .tag tag (position + slashes) else .text tag] ++
        parts (position + slashes + tag.length) later
    | none => Part.prepend c (parts (position + 1) rest)
termination_by markup.length
decreasing_by
  · exact length_tag?_dropWhile _found
  · simp

theorem parts_of_not_mem {text : List Char} (noBracket : '[' ∉ text) (position : Nat) :
    parts position text = [.text text] := by
  induction text generalizing position with
  | nil => rw [parts.eq_def]
  | cons c rest ih =>
    have none := tag?_dropWhile_of_not_mem noBracket
    rw [parts.eq_def]
    simp only
    split
    next found =>
      rw [none] at found
      cases found
    next =>
      rw [ih fun member => noBracket (List.mem_cons_of_mem c member)]
      rfl

/-- A backslash before a bracket is lost. -/
def dropBracketEscapes : List Char → List Char
  | '\\' :: '[' :: rest => '[' :: dropBracketEscapes rest
  | c :: rest => c :: dropBracketEscapes rest
  | [] => []

/-- Endings of a code that ask for the look of a letter or of an emoji, with the character that does so. -/
def looks : List (List Char × Char) :=
  [("-text".toList, '\ufe0e'), ("-emoji".toList, Text.emojiSelector)]

/-- What a code stands for. An ending that asks for a look is no part of the name. -/
def emoji? (code : List Char) : Option (List Char) :=
  match looks.find? fun (ending, _) => ending.isSuffixOf code with
  | some (ending, look) =>
    (Emoji.find? (code.take (code.length - ending.length))).map (· ++ [look])
  | none => Emoji.find? code

/-- Replaces codes `:name:` from left to right; a code without an emoji stays as it is. -/
def replaceEmoji (text : List Char) : List Char :=
  match text with
  | [] => []
  | c :: rest =>
    if c = ':' then
      let inCode := fun d => d ≠ ':' && !Text.isBlank d
      match _closed : rest.dropWhile inCode with
      | ':' :: later =>
        let code := rest.takeWhile inCode
        (emoji? code).getD (':' :: code ++ [':']) ++ replaceEmoji later
      | _ => ':' :: replaceEmoji rest
    else c :: replaceEmoji rest
termination_by text.length
decreasing_by
  all_goals simp only [List.length_cons]
  all_goals try omega
  all_goals
    have shorter := (List.dropWhile_suffix (l := rest) inCode).length_le
    rw [_closed, List.length_cons] at shorter
    omega

def Part.render : Part → List Char
  | .text chars => replaceEmoji (dropBracketEscapes chars)
  | .tag _ _ => []

/-- What appears of a markup text. -/
def render (markup : List Char) : List Char := (parts 0 markup).flatMap Part.render

/-- A tag that is to close what no tag has opened. -/
structure Unopened where
  tag : List Char
  position : Nat

namespace Unopened

/-- The name of what a tag closes; what follows an equals sign is no part of it. -/
def name (unopened : Unopened) : List Char :=
  Text.strip ((unopened.tag.dropLast.drop 2).takeWhile (· ≠ '='))

def message (unopened : Unopened) : String :=
  let place := " at position " ++ toString unopened.position
  if unopened.name.isEmpty then "closing tag '[/]'" ++ place ++ " has nothing to close"
  else "closing tag '" ++ String.ofList unopened.tag ++ "'" ++ place ++ " doesn't match any open tag"

end Unopened

/-- The first closing tag of a markup text, in which no tag is ever opened to be closed again. -/
def unopened? (markup : List Char) : Option Unopened :=
  (parts 0 markup).findSome? fun
    | .tag ('[' :: '/' :: rest) position => some ⟨'[' :: '/' :: rest, position⟩
    | _ => none

theorem unopened?_of_not_mem {text : List Char} (noBracket : '[' ∉ text) : unopened? text = none := by
  rw [unopened?, parts_of_not_mem noBracket]
  rfl

end Gradual.Markup
