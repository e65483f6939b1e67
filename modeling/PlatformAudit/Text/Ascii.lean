/-!
# ASCII case

Names of namespaces, attributes, packages and libraries are compared without
regard to the case of the twenty-six Latin letters. Every other character is
compared as it is, so the comparison never changes the length of a text.
-/

namespace PlatformAudit.Text

/-- The small letter of a Latin capital, and any other character unchanged. -/
def asciiLower (c : Char) : Char :=
  if 'A' ≤ c ∧ c ≤ 'Z' then Char.ofNat (c.toNat + 32) else c

/-- The capital of a small Latin letter, and any other character unchanged. -/
def asciiUpper (c : Char) : Char :=
  if 'a' ≤ c ∧ c ≤ 'z' then Char.ofNat (c.toNat - 32) else c

/-- Whether two characters are the same up to the case of a Latin letter. -/
def sameLetter (a b : Char) : Bool :=
  asciiLower a = asciiLower b

/-- Whether two texts are the same up to the case of Latin letters. -/
def sameIgnoringCase : List Char → List Char → Bool
  | [], [] => true
  | a :: as, b :: bs => sameLetter a b && sameIgnoringCase as bs
  | _, _ => false

/-- What follows `start` in a text that begins with it up to the case of Latin letters. -/
def dropStartIgnoringCase : (start text : List Char) → Option (List Char)
  | [], text => some text
  | _ :: _, [] => none
  | a :: as, b :: bs => if sameLetter a b then dropStartIgnoringCase as bs else none

end PlatformAudit.Text
