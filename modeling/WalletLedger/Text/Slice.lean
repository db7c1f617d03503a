/-!
# Slices of a text

A text is stored as bytes, of which a character takes up to four. A slice lies
between two distances from the start that are counted in bytes, and there is
none if one of its ends is inside of a character.
-/

namespace WalletLedger.Text

/-- How many bytes characters take. -/
def byteSize : List Char → Nat
  | [] => 0
  | c :: cs => c.utf8Size + byteSize cs

/-- The characters that make up the first bytes. -/
def takeBytes? (size : Nat) : List Char → Option (List Char)
  | [] => if size = 0 then some [] else none
  | c :: cs =>
    if size = 0 then some []
    else if c.utf8Size ≤ size then (takeBytes? (size - c.utf8Size) cs).map (c :: ·)
    else none

/-- The characters behind the first bytes. -/
def dropBytes? (size : Nat) : List Char → Option (List Char)
  | [] => if size = 0 then some [] else none
  | c :: cs =>
    if size = 0 then some (c :: cs)
    else if c.utf8Size ≤ size then dropBytes? (size - c.utf8Size) cs
    else none

/-- The characters between two distances from the start. -/
def slice? (first last : Nat) (cs : List Char) : Option (List Char) :=
  (dropBytes? first cs).bind (takeBytes? (last - first))

end WalletLedger.Text
