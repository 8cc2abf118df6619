/-! Decoding of UTF-8. A sequence that is not well formed is reported with the bytes that make it
so: an impossible first byte alone, a sequence up to the byte that does not continue it, or all the
bytes of a sequence that the text breaks off. -/
namespace Gradual.Text.Utf8

inductive Reason where
  | invalidStart
  | invalidContinuation
  | unexpectedEnd
  deriving DecidableEq

/-- `first` is the first of the faulty bytes and stands at `position`. -/
structure Fault where
  reason : Reason
  position : Nat
  length : Nat
  first : UInt8

/-- How many bytes follow a first byte, and between which bounds the next one lies. -/
def shape? (lead : UInt8) : Option (Nat × UInt8 × UInt8) :=
  if lead < 0xc2 then none
  else if lead < 0xe0 then some (1, 0x80, 0xbf)
  else if lead = 0xe0 then some (2, 0xa0, 0xbf)
  else if lead = 0xed then some (2, 0x80, 0x9f)
  else if lead < 0xf0 then some (2, 0x80, 0xbf)
  else if lead = 0xf0 then some (3, 0x90, 0xbf)
  else if lead < 0xf4 then some (3, 0x80, 0xbf)
  else if lead = 0xf4 then some (3, 0x80, 0x8f)
  else none

/-- Takes `count` continuing bytes, the first of them between the bounds. On failure it tells the
reason and how many bytes had been good. -/
def continuing : Nat → UInt8 → UInt8 → List UInt8 → Except (Reason × Nat) (List UInt8)
  | 0, _, _, _ => .ok []
  | _ + 1, _, _, [] => .error (.unexpectedEnd, 0)
  | count + 1, low, high, b :: rest =>
    if low ≤ b ∧ b ≤ high then
      match continuing count 0x80 0xbf rest with
      | .ok taken => .ok (b :: taken)
      | .error (reason, good) => .error (reason, good + 1)
    else .error (.invalidContinuation, 0)

/-- The code point of a sequence whose first byte holds all bits below `mask`. -/
def codePoint (lead : UInt8) (taken : List UInt8) : Nat :=
  let mask := match taken.length with
    | 1 => 0x20
    | 2 => 0x10
    | _ => 0x08
  taken.foldl (fun n b => n * 64 + b.toNat % 64) (lead.toNat % mask)

def decodeFrom (position : Nat) (bytes : List UInt8) : Except Fault (List Char) :=
  match bytes with
  | [] => .ok []
  | b :: rest =>
    if b < 0x80 then (decodeFrom (position + 1) rest).map (Char.ofNat b.toNat :: ·)
    else
      match shape? b with
      | none => .error ⟨.invalidStart, position, 1, b⟩
      | some (count, low, high) =>
        match continuing count low high rest with
        | .error (reason, good) => .error ⟨reason, position, good + 1, b⟩
        | .ok taken =>
          (decodeFrom (position + 1 + count) (rest.drop count)).map
            (Char.ofNat (codePoint b taken) :: ·)
termination_by bytes.length
decreasing_by all_goals simp only [List.length_cons, List.length_drop]; omega

def decode (bytes : List UInt8) : Except Fault (List Char) := decodeFrom 0 bytes

def Reason.message : Reason → String
  | .invalidStart => "invalid start byte"
  | .invalidContinuation => "invalid continuation byte"
  | .unexpectedEnd => "unexpected end of data"

def Fault.message (fault : Fault) : String :=
  let digits := Nat.toDigits 16 fault.first.toNat
  let place :=
    if fault.length = 1 then
      "byte 0x" ++ String.ofList digits ++ " in position " ++ toString fault.position
    else
      "bytes in position " ++ toString fault.position ++ "-" ++
        toString (fault.position + fault.length - 1)
  "'utf-8' codec can't decode " ++ place ++ ": " ++ fault.reason.message

end Gradual.Text.Utf8
