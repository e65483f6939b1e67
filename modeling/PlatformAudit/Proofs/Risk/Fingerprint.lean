import Mathlib.Data.List.Basic
import PlatformAudit.Proofs.Decimal.Digits
import PlatformAudit.Risk.Finding

/-!
# What a fingerprint tells apart

A fingerprint is a digest of four texts, each followed by a zero byte. Such a sequence
of bytes can be taken apart again only if it is clear where each text ends. The rule
and the file must not hold a zero character themselves; the line is written in digits
and never does; the message may hold what it likes, since it is the last. So the bytes
are the same for findings with the same identity and for no others
(`PlatformAudit.Finding.identityBytes_eq_iff`).

The digest of a list is a digest of lines, one for each fingerprint. A fingerprint is
written in hexadecimal, so no line ends early, and equal lines give equal fingerprints
one by one (`PlatformAudit.Finding.fingerprints_of_lines`). What remains is the digest
function itself. It has collisions, as any function from all texts to 32 bytes, so all
that can be said is said of messages among which it has none
(`PlatformAudit.Sha256.CollisionFree`): those that are really hashed, and no others.
-/

namespace PlatformAudit

/-! ### Texts as bytes -/

/-- What follows a separator begins where the separator first stands. -/
theorem append_separator_inj {α : Type} {sep : α} {a b c d : List α} (ha : sep ∉ a) (hc : sep ∉ c) :
    a ++ sep :: b = c ++ sep :: d ↔ a = c ∧ b = d := by
  induction a generalizing c with
  | nil =>
    cases c with
    | nil => simp
    | cons y c =>
      have hy : sep ≠ y := fun h => hc (h ▸ List.mem_cons_self)
      simp [hy]
  | cons x a ih =>
    cases c with
    | nil =>
      have hx : sep ≠ x := fun h => ha (h ▸ List.mem_cons_self)
      simp [hx.symm]
    | cons y c =>
      have hrest := ih (fun h => ha (List.mem_cons_of_mem x h)) (c := c)
        fun h => hc (List.mem_cons_of_mem y h)
      simp [hrest, and_assoc]

namespace Finding

/-- Texts with the same bytes are equal. -/
theorem bytesOf_injective : Function.Injective bytesOf := by
  intro s t h
  have hbytes : s.toList.utf8Encode = t.toList.utf8Encode := congrArg List.toByteArray h
  rwa [String.utf8Encode_toList, String.utf8Encode_toList, String.toByteArray_inj] at hbytes

/-- A character of more than one byte has no byte below 128. -/
theorem eq_of_mem_utf8EncodeChar {c : Char} {b : UInt8} (hb : b.toNat < 128)
    (h : b ∈ String.utf8EncodeChar c) : c.toNat = b.toNat := by
  have hnat : c.val.toNat = c.toNat := rfl
  rw [String.utf8EncodeChar, hnat] at h
  split at h
  · obtain rfl := List.mem_singleton.mp h
    rw [UInt8.toNat_ofNat']
    omega
  · -- every byte has its highest bit set
    exfalso
    split at h
    · simp only [List.mem_cons, List.not_mem_nil, or_false] at h
      rcases h with rfl | rfl <;> rw [UInt8.toNat_ofNat'] at hb <;> omega
    · split at h
      · simp only [List.mem_cons, List.not_mem_nil, or_false] at h
        rcases h with rfl | rfl | rfl <;> rw [UInt8.toNat_ofNat'] at hb <;> omega
      · simp only [List.mem_cons, List.not_mem_nil, or_false] at h
        rcases h with rfl | rfl | rfl | rfl <;> rw [UInt8.toNat_ofNat'] at hb <;> omega

/-- **A byte below 128 is a character of its own.** -/
theorem exists_of_mem_bytesOf {s : String} {b : UInt8} (hb : b.toNat < 128)
    (h : b ∈ bytesOf s) : ∃ c ∈ s.toList, c.toNat = b.toNat := by
  obtain ⟨c, hc, hmem⟩ := List.mem_flatMap.mp h
  exact ⟨c, hc, eq_of_mem_utf8EncodeChar hb hmem⟩

/-! ### Identities -/

/-- What a finding is told by: the file, the line, the rule and the message. -/
def identity (f : Finding) : String × UInt32 × String × String :=
  (f.file, f.line, f.ruleId, f.message)

theorem identity_eq_iff {a b : Finding} :
    a.identity = b.identity ↔
      a.file = b.file ∧ a.line = b.line ∧ a.ruleId = b.ruleId ∧ a.message = b.message := by
  simp only [identity, Prod.mk.injEq]

/-- Neither the rule nor the file holds a zero character. -/
def NulFree (f : Finding) : Prop :=
  '\x00' ∉ f.ruleId.toList ∧ '\x00' ∉ f.file.toList

instance (f : Finding) : Decidable f.NulFree :=
  inferInstanceAs (Decidable (_ ∧ _))

theorem zero_not_mem_bytesOf {s : String} (h : '\x00' ∉ s.toList) : 0 ∉ bytesOf s := by
  intro hmem
  obtain ⟨c, hc, hnat⟩ := exists_of_mem_bytesOf (by decide) hmem
  have hnul : c = '\x00' := Char.toNat_inj.mp hnat
  exact h (hnul ▸ hc)

/-- The notation of a line has no zero byte. -/
theorem zero_not_mem_lineText (n : Nat) : 0 ∉ bytesOf (String.ofList (Decimal.text n)) := by
  intro hmem
  obtain ⟨c, hc, hnat⟩ := exists_of_mem_bytesOf (by decide) hmem
  rw [String.toList_ofList] at hc
  have hdigit := (Decimal.isDigit_of_mem_text hc).1
  have hzero : c.toNat = 0 := hnat
  omega

theorem lineText_injective {m n : UInt32}
    (h : bytesOf (String.ofList (Decimal.text m.toNat)) =
      bytesOf (String.ofList (Decimal.text n.toNat))) : m = n := by
  have htext := congrArg String.toList (bytesOf_injective h)
  rw [String.toList_ofList, String.toList_ofList] at htext
  exact UInt32.toNat_inj.mp (Decimal.text_injective htext)

/-- **The bytes that identify a finding are those of its identity and of no other.** -/
theorem identityBytes_eq_iff {f g : Finding} (hf : f.NulFree) (hg : g.NulFree) :
    f.identityBytes = g.identityBytes ↔ f.identity = g.identity := by
  rw [identityBytes, identityBytes,
    append_separator_inj (zero_not_mem_bytesOf hf.1) (zero_not_mem_bytesOf hg.1),
    append_separator_inj (zero_not_mem_bytesOf hf.2) (zero_not_mem_bytesOf hg.2),
    append_separator_inj (zero_not_mem_lineText _) (zero_not_mem_lineText _),
    -- the message is the last, so its own zero is at the end whatever it holds
    List.append_cancel_right_eq, identity_eq_iff]
  constructor
  · rintro ⟨hrule, hfile, hline, hmessage⟩
    exact ⟨bytesOf_injective hfile, lineText_injective hline, bytesOf_injective hrule,
      bytesOf_injective hmessage⟩
  · rintro ⟨hfile, hline, hrule, hmessage⟩
    rw [hfile, hline, hrule, hmessage]
    exact ⟨rfl, rfl, rfl, rfl⟩

/-- **A fingerprint depends on the identity only.** -/
theorem fingerprint_congr {a b : Finding} (h : a.identity = b.identity) :
    a.fingerprint = b.fingerprint := by
  obtain ⟨hfile, hline, hrule, hmessage⟩ := identity_eq_iff.mp h
  rw [fingerprint, fingerprint, identityBytes, identityBytes, hfile, hline, hrule, hmessage]

end Finding

/-! ### Digests in hexadecimal -/

namespace Sha256

theorem toNat_hexChar {n : UInt8} (h : n.toNat < 16) :
    (hexChar n).toNat = if n.toNat < 10 then 48 + n.toNat else 87 + n.toNat := by
  have hlt : n < 10 ↔ n.toNat < 10 := UInt8.lt_iff_toNat_lt
  have hvalid : ∀ k : Nat, k < 128 → (Char.ofNat k).toNat = k := by
    intro k hk
    rw [Char.ofNat, dif_pos (Or.inl (by omega))]
    rfl
  rw [hexChar]
  by_cases hn : n.toNat < 10
  · rw [if_pos (hlt.mpr hn), if_pos hn, hvalid _ (by omega)]
  · rw [if_neg (fun hc => hn (hlt.mp hc)), if_neg hn, hvalid _ (by omega)]

theorem hexChar_injective {m n : UInt8} (hm : m.toNat < 16) (hn : n.toNat < 16)
    (h : hexChar m = hexChar n) : m.toNat = n.toNat := by
  have hnat := congrArg Char.toNat h
  rw [toNat_hexChar hm, toNat_hexChar hn] at hnat
  split at hnat <;> split at hnat <;> omega

theorem toNat_high (b : UInt8) : (b >>> 4).toNat = b.toNat / 16 := by
  rw [UInt8.toNat_shiftRight]
  exact Nat.shiftRight_eq_div_pow _ _

theorem toNat_low (b : UInt8) : (b &&& 15).toNat = b.toNat % 16 := by
  rw [UInt8.toNat_and]
  exact Nat.and_two_pow_sub_one_eq_mod _ 4

/-- The two digits of a byte determine it. -/
theorem hexPair_injective {b c : UInt8} (hhigh : hexChar (b >>> 4) = hexChar (c >>> 4))
    (hlow : hexChar (b &&& 15) = hexChar (c &&& 15)) : b = c := by
  have hb := b.toNat_lt
  have hc := c.toNat_lt
  have hhigh' := hexChar_injective (by rw [toNat_high]; omega) (by rw [toNat_high]; omega) hhigh
  have hlow' := hexChar_injective (by rw [toNat_low]; omega) (by rw [toNat_low]; omega) hlow
  rw [toNat_high, toNat_high] at hhigh'
  rw [toNat_low, toNat_low] at hlow'
  exact UInt8.toNat_inj.mp (by omega)

/-- **Bytes with the same hexadecimal notation are equal.** -/
theorem hex_injective : Function.Injective hex := by
  intro bs
  induction bs with
  | nil =>
    rintro (_ | ⟨c, cs⟩) h
    · rfl
    · simp [hex] at h
  | cons b bs ih =>
    rintro (_ | ⟨c, cs⟩) h
    · simp [hex] at h
    · simp only [hex, List.flatMap_cons, List.cons_append, List.nil_append,
        List.cons.injEq] at h
      obtain ⟨hhigh, hlow, hrest⟩ := h
      rw [hexPair_injective hhigh hlow, ih hrest]

theorem digest_eq_of_hexDigest_eq {m m' : List UInt8} (h : hexDigest m = hexDigest m') :
    digest m = digest m' := by
  have hchars := congrArg String.toList h
  rw [hexDigest, hexDigest, String.toList_ofList, String.toList_ofList] at hchars
  exact hex_injective hchars

/-- A digest in hexadecimal has no line break in it. -/
theorem newline_not_mem_hexDigest (m : List UInt8) : 10 ∉ Finding.bytesOf (hexDigest m) := by
  intro hmem
  obtain ⟨c, hc, hnat⟩ := Finding.exists_of_mem_bytesOf (by decide) hmem
  have hten : c.toNat = 10 := hnat
  rw [hexDigest, String.toList_ofList, hex, List.mem_flatMap] at hc
  obtain ⟨b, -, hc⟩ := hc
  have hb := b.toNat_lt
  -- a hexadecimal digit is a decimal digit or a letter
  have hdigit : ∃ n : UInt8, n.toNat < 16 ∧ c = hexChar n := by
    rcases List.mem_cons.mp hc with rfl | hc
    · exact ⟨b >>> 4, by rw [toNat_high]; omega, rfl⟩
    · exact ⟨b &&& 15, by rw [toNat_low]; omega, List.mem_singleton.mp hc⟩
  obtain ⟨n, hn, rfl⟩ := hdigit
  rw [toNat_hexChar hn] at hten
  split at hten <;> omega

/-- No two of these messages have the same digest. -/
def CollisionFree (messages : List (List UInt8)) : Prop :=
  ∀ m ∈ messages, ∀ m' ∈ messages, digest m = digest m' → m = m'

instance (messages : List (List UInt8)) : Decidable (CollisionFree messages) :=
  inferInstanceAs (Decidable (∀ m ∈ messages, ∀ m' ∈ messages, digest m = digest m' → m = m'))

end Sha256

/-! ### Lists of findings -/

namespace Finding

/-- The fingerprints of findings, each with a line break after it. -/
def fingerprintLines (fs : List Finding) : List UInt8 :=
  fs.flatMap fun f => bytesOf f.fingerprint ++ [10]

theorem listDigest_eq (fs : List Finding) :
    listDigest fs = Sha256.hexDigest (fingerprintLines fs) :=
  rfl

theorem fingerprintLines_cons (f : Finding) (fs : List Finding) :
    fingerprintLines (f :: fs) = bytesOf f.fingerprint ++ 10 :: fingerprintLines fs := by
  simp only [fingerprintLines, List.flatMap_cons, List.append_assoc, List.cons_append,
    List.nil_append]

/-- All messages that are hashed for the digest of a list. -/
def hashed (fs : List Finding) : List (List UInt8) :=
  fingerprintLines fs :: fs.map identityBytes

/-- **Equal lines give equal fingerprints**, one by one. -/
theorem fingerprints_of_lines {fs gs : List Finding} (h : fingerprintLines fs = fingerprintLines gs) :
    fs.map fingerprint = gs.map fingerprint := by
  induction fs generalizing gs with
  | nil =>
    cases gs with
    | nil => rfl
    | cons g gs => simp [fingerprintLines] at h
  | cons f fs ih =>
    cases gs with
    | nil => simp [fingerprintLines] at h
    | cons g gs =>
      have hone : ∀ p : Finding, 10 ∉ bytesOf p.fingerprint := fun p =>
        Sha256.newline_not_mem_hexDigest p.identityBytes
      rw [fingerprintLines_cons, fingerprintLines_cons,
        append_separator_inj (hone f) (hone g)] at h
      rw [List.map_cons, List.map_cons, bytesOf_injective h.1, ih h.2]

theorem lines_of_fingerprints {fs gs : List Finding}
    (h : fs.map fingerprint = gs.map fingerprint) : fingerprintLines fs = fingerprintLines gs := by
  have hlines : ∀ fs : List Finding, fingerprintLines fs =
      (fs.map fingerprint).flatMap fun p => bytesOf p ++ [10] := by
    intro fs
    rw [fingerprintLines, List.flatMap_map]
  rw [hlines, hlines, h]

/-- **The digest of a list depends on the identities only**, in their order. -/
theorem listDigest_congr {fs gs : List Finding} (h : fs.map identity = gs.map identity) :
    listDigest fs = listDigest gs := by
  have hprints : fs.map fingerprint = gs.map fingerprint := by
    have hlength : fs.length = gs.length := by simpa using congrArg List.length h
    refine List.ext_getElem (by simpa using hlength) fun i hf hg => ?_
    rw [List.getElem_map, List.getElem_map]
    refine fingerprint_congr ?_
    rw [List.length_map] at hf hg
    have hi := congrArg (·[i]?) h
    simpa [hf, hg] using hi
  rw [listDigest_eq, listDigest_eq, lines_of_fingerprints hprints]

/-- Where no two messages collide, findings with the same fingerprint have the same identity. -/
theorem identity_eq_of_fingerprint_eq {messages : List (List UInt8)} {f g : Finding}
    (hfree : Sha256.CollisionFree messages) (hf : f.NulFree) (hg : g.NulFree)
    (hfm : f.identityBytes ∈ messages) (hgm : g.identityBytes ∈ messages)
    (h : f.fingerprint = g.fingerprint) : f.identity = g.identity := by
  have hdigest := Sha256.digest_eq_of_hexDigest_eq h
  exact (identityBytes_eq_iff hf hg).mp (hfree _ hfm _ hgm hdigest)

end Finding

/-- **Fingerprints and digests tell findings apart.** The bytes hashed for a fingerprint are the same
for findings with the same identity and for no others, if neither the rule nor the file holds a
zero character. So, unless two of the messages that are hashed collide, two lists of such findings
have the same digest exactly when they are equally long and agree place by place on what
identifies a finding. -/
theorem fingerprints_separate :
    (∀ f g : Finding, f.NulFree → g.NulFree →
      (f.identityBytes = g.identityBytes ↔
        f.ruleId = g.ruleId ∧ f.file = g.file ∧ f.line = g.line ∧ f.message = g.message)) ∧
    ∀ fs gs : List Finding, (∀ f ∈ fs, f.NulFree) → (∀ g ∈ gs, g.NulFree) →
      Sha256.CollisionFree (Finding.hashed fs ++ Finding.hashed gs) →
      (Finding.listDigest fs = Finding.listDigest gs ↔
        fs.length = gs.length ∧ ∀ i (hf : i < fs.length) (hg : i < gs.length),
          fs[i].ruleId = gs[i].ruleId ∧ fs[i].file = gs[i].file ∧ fs[i].line = gs[i].line ∧
            fs[i].message = gs[i].message) := by
  have hreorder : ∀ f g : Finding, f.identity = g.identity ↔
      f.ruleId = g.ruleId ∧ f.file = g.file ∧ f.line = g.line ∧ f.message = g.message := by
    intro f g
    rw [Finding.identity_eq_iff]
    tauto
  refine ⟨fun f g hf hg => ?_, fun fs gs hfs hgs hfree => ?_⟩
  · rw [Finding.identityBytes_eq_iff hf hg, hreorder]
  · simp only [← hreorder]
    constructor
    · intro h
      have hlines := hfree (Finding.fingerprintLines fs) (by simp [Finding.hashed])
        (Finding.fingerprintLines gs) (by simp [Finding.hashed])
        (Sha256.digest_eq_of_hexDigest_eq h)
      have hprints := Finding.fingerprints_of_lines hlines
      refine ⟨by simpa using congrArg List.length hprints, fun i hf hg => ?_⟩
      have hi : fs[i].fingerprint = gs[i].fingerprint := by
        simpa [hf, hg] using congrArg (·[i]?) hprints
      have hfm := List.getElem_mem hf
      have hgm := List.getElem_mem hg
      exact Finding.identity_eq_of_fingerprint_eq hfree (hfs _ hfm) (hgs _ hgm)
        (by simp [Finding.hashed, List.mem_map_of_mem hfm])
        (by simp [Finding.hashed, List.mem_map_of_mem hgm]) hi
    · rintro ⟨hlength, hplaces⟩
      refine Finding.listDigest_congr (List.ext_getElem (by simpa using hlength) ?_)
      intro i hf hg
      rw [List.getElem_map, List.getElem_map]
      rw [List.length_map] at hf hg
      exact hplaces i hf hg

/-- A message may hold a zero character, and then looks like the end of another finding. -/
theorem fingerprints_separate_shifted :
    let f := Finding.create "R" .general .low "a.cs" 1 "2\x00x" ""
    let g := Finding.create "R" .general .low "a.cs" 12 "x" ""
    (f.NulFree ∧ g.NulFree ∧ Sha256.CollisionFree (Finding.hashed [f] ++ Finding.hashed [g])) ∧
      f.identityBytes ≠ g.identityBytes ∧ Finding.listDigest [f] ≠ Finding.listDigest [g] := by
  intro f g
  have hf : f.NulFree := by decide
  have hg : g.NulFree := by decide
  have hfree : Sha256.CollisionFree (Finding.hashed [f] ++ Finding.hashed [g]) := by
    decide +kernel
  have hline : f.line ≠ g.line := by decide
  obtain ⟨hbytes, hlists⟩ := fingerprints_separate
  refine ⟨⟨hf, hg, hfree⟩, fun h => ?_, fun h => ?_⟩
  · exact hline ((hbytes f g hf hg).mp h).2.2.1
  · obtain ⟨-, hplaces⟩ := (hlists [f] [g] (List.forall_mem_singleton.mpr hf)
      (List.forall_mem_singleton.mpr hg) hfree).mp h
    exact hline (hplaces 0 Nat.one_pos Nat.one_pos).2.2.1

end PlatformAudit
