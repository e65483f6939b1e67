import PlatformAudit.Decimal.Digits
import PlatformAudit.Digest.Sha256
import PlatformAudit.Risk.Category
import PlatformAudit.Risk.Severity

/-!
# Findings

A finding is a risk at a line of a file. Its **identity** is the rule that found
it, the file, the line and the message; how grave it is and what to do about it
are not part of it. The fingerprint is a digest of the identity, and the digest
of a list of findings is a digest of their fingerprints in order.
-/

namespace PlatformAudit

/-- A risk at a line of a file. -/
structure Finding where
  file : String
  line : UInt32
  message : String
  recommendation : String
  severity : Severity
  category : Category
  ruleId : String
  deriving DecidableEq

namespace Finding

/-- Lines count from one; a line that is not known is reported as the first. -/
def atLine (line : UInt32) : UInt32 :=
  if line = 0 then 1 else line

/-- A finding with its line put in range. -/
def create (ruleId : String) (category : Category) (severity : Severity) (file : String)
    (line : UInt32) (message recommendation : String) : Finding :=
  { file, line := atLine line, message, recommendation, severity, category, ruleId }

/-! ### Identity -/

/-- The bytes of a text. -/
def bytesOf (s : String) : List UInt8 :=
  s.toList.flatMap String.utf8EncodeChar

/-- The bytes that identify a finding: rule, file, line and message, each followed by a zero. -/
def identityBytes (f : Finding) : List UInt8 :=
  bytesOf f.ruleId ++ 0 :: (bytesOf f.file ++
    0 :: (bytesOf (String.ofList (Decimal.text f.line.toNat)) ++ 0 :: (bytesOf f.message ++ [0])))

/-- The digest of a finding's identity. -/
def fingerprint (f : Finding) : String :=
  Sha256.hexDigest f.identityBytes

/-- The digest of the fingerprints of findings, in order, each on a line of its own. -/
def listDigest (fs : List Finding) : String :=
  Sha256.hexDigest (fs.flatMap fun f => bytesOf f.fingerprint ++ [10])

/-! ### Order -/

/-- The order of a report: by file, line, rule and message. -/
def order : Finding → Finding → Ordering :=
  compareLex (compareOn file) (compareLex (compareOn line)
    (compareLex (compareOn ruleId) (compareOn message)))

/-- Findings in the order of a report; those that differ in no key keep their order. -/
def sort (fs : List Finding) : List Finding :=
  fs.mergeSort fun a b => (order a b).isLE

end Finding

end PlatformAudit
