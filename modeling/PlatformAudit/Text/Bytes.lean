import PlatformAudit.Text.Segment

/-!
# Texts as bytes

A character takes one to four bytes, and only its first byte can begin a
character. So a text can be cut after some numbers of bytes and not after others.
Whether it can is seen from a single byte, the one that would come after the cut.
-/

namespace PlatformAudit.Text

/-- The bytes of a text. -/
def bytes (cs : List Char) : List UInt8 :=
  cs.flatMap String.utf8EncodeChar

/-- A byte that continues a character. -/
def isContinuation (b : UInt8) : Bool :=
  0x80 ≤ b && b < 0xC0

/-- Whether a text has a boundary between characters after `n` bytes: it ends there, or the next
byte continues no character. -/
def isBoundary (cs : List Char) (n : Nat) : Bool :=
  match (bytes cs)[n]? with
  | none => n = byteLength cs
  | some b => !isContinuation b

/-- The two parts of a text that is cut after `n` bytes. There is no cut inside a character, nor
beyond the end. -/
def cutAfter? : (n : Nat) → List Char → Option (List Char × List Char)
  | 0, cs => some ([], cs)
  | _ + 1, [] => none
  | n + 1, c :: cs =>
    if c.utf8Size ≤ n + 1 then
      (cutAfter? (n + 1 - c.utf8Size) cs).map fun parts => (c :: parts.1, parts.2)
    else none

end PlatformAudit.Text
