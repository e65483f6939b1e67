import PlatformAudit.Detect.Hit
import PlatformAudit.Text.Alphanumeric

/-!
# Conditions on compilation

Of the directives only the conditions count. Every symbol of a condition that
contains one of some tokens, without regard to case, is a hit.
-/

namespace PlatformAudit.Detect

open Text Code

/-- The condition of a directive that has one. -/
def condition? (directive : List Char) : Option (List Char) := do
  let text := trimStart (← dropStart? ['#'] (trimStart directive))
  let rest ← dropStart? "elif".toList text <|> dropStart? "if".toList text
  match rest with
  | [] => some []
  | c :: _ => if isAlphanumeric c then none else some rest

/-- Whether a symbol contains one of some tokens. -/
def containsToken (tokens : List String) (symbol : List Char) : Bool :=
  tokens.any fun t => occursIn (t.toList.map asciiUpper) (symbol.map asciiUpper)

/-- The hits of a directive. -/
def directiveHitsAt (tokens : List String) (d : Directive) : List Hit :=
  match condition? d.text.toList with
  | none => []
  | some cond =>
    ((runsOf isIdentifierChar cond).filter (containsToken tokens)).map fun symbol =>
      { line := d.line
        subject := String.ofList (trim d.text.toList)
        evidence := String.ofList symbol }

/-- The conditions of a unit that test symbols with one of some tokens. -/
def directiveHits (tokens : List String) (u : LoadedUnit) : List Hit :=
  u.unit.directives.flatMap (directiveHitsAt tokens)

end PlatformAudit.Detect
