/-!
# Parts of a text

Dotted names, paths and generic arguments are read by cutting a text at a
character. All cuts are structural recursions on the list of characters, and
together the parts and the separators give the text back.
-/

namespace PlatformAudit.Text

/-- The number of bytes of a text. -/
def byteLength (cs : List Char) : Nat :=
  cs.foldl (fun n c => n + c.utf8Size) 0

/-- The parts of a text between the characters that separate; there is always one. -/
def segmentsBy (separates : Char → Bool) : List Char → List (List Char)
  | [] => [[]]
  | c :: cs =>
    match segmentsBy separates cs with
    | [] => [[c]]
    | part :: parts => if separates c then [] :: part :: parts else (c :: part) :: parts

/-- The parts of a text between the occurrences of a separator. -/
def segments (sep : Char) (cs : List Char) : List (List Char) :=
  segmentsBy (· = sep) cs

/-- The maximal non-empty runs of characters that satisfy `p`. -/
def runsOf (p : Char → Bool) (cs : List Char) : List (List Char) :=
  (segmentsBy (fun c => !p c) cs).filter fun run => !run.isEmpty

/-- What precedes the first occurrence of a separator; the whole text if there is none. -/
def beforeFirst (sep : Char) (cs : List Char) : List Char :=
  cs.takeWhile (· ≠ sep)

/-- What follows the last character that satisfies `p`; the whole text if there is none. -/
def afterLastOf (p : Char → Bool) (cs : List Char) : List Char :=
  (cs.reverse.takeWhile fun c => !p c).reverse

/-- What follows the last occurrence of a separator; the whole text if there is none. -/
def afterLast (sep : Char) (cs : List Char) : List Char :=
  afterLastOf (· = sep) cs

/-- What follows `start` in a text that begins with it. -/
def dropStart? : (start text : List Char) → Option (List Char)
  | [], text => some text
  | _ :: _, [] => none
  | a :: as, b :: bs => if a = b then dropStart? as bs else none

/-- What precedes `final` in a text that ends with it. -/
def dropFinal? (final text : List Char) : Option (List Char) :=
  (dropStart? final.reverse text.reverse).map List.reverse

/-- Whether `part` stands somewhere in a text. -/
def occursIn (part : List Char) : List Char → Bool
  | [] => part.isEmpty
  | c :: cs => part.isPrefixOf (c :: cs) || occursIn part cs

/-- Replaces the occurrences of `old` after the first `skip` characters, which are dropped. -/
def replaceFrom (old new : List Char) : (skip : Nat) → List Char → List Char
  | _, [] => []
  | skip + 1, _ :: cs => replaceFrom old new skip cs
  | 0, c :: cs =>
    if old.isPrefixOf (c :: cs) then new ++ replaceFrom old new (old.length - 1) cs
    else c :: replaceFrom old new 0 cs

/-- Replaces every occurrence of the non-empty text `old`, left to right. -/
def replaceAll (old new : List Char) (cs : List Char) : List Char :=
  replaceFrom old new 0 cs

end PlatformAudit.Text
