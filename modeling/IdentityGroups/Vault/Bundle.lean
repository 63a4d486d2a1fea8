import IdentityGroups.Text.Utf8

/-! # Bundles of certificates

A bundle is a text of labelled sections, each between a line that begins it and a line that ends it
(RFC 7468); lines outside sections say nothing. The content of a section with one of the usual
labels must be base64. No certificate is looked into: a bundle that holds one is not usable, nor is
one with a malformed beginning or an open end.
-/

namespace IdentityGroups.Vault.Bundle

abbrev Bytes := List UInt8

def beginMark : Bytes := Text.Utf8.encode "-----BEGIN "

def endMark (label : Bytes) : Bytes :=
  Text.Utf8.encode "-----END " ++ label ++ Text.Utf8.encode "-----"

def dash : UInt8 := 0x2d

def space : UInt8 := 0x20

/-- The label on the rest of a line that begins a section: behind it stand five dashes, among which
and behind which there may be spaces. -/
def label? (rest : Bytes) : Option Bytes :=
  let backwards := rest.reverse
  let behind := backwards.takeWhile fun b => b = dash || b = space
  if behind.count dash = 5 then
    some ((behind.reverse.takeWhile (· = space)).reverse ++ backwards.drop behind.length).reverse
  else none

def certificateLabel : Bytes := Text.Utf8.encode "CERTIFICATE"

def readLabels : List Bytes := [
  "CERTIFICATE", "PUBLIC KEY", "RSA PRIVATE KEY", "PRIVATE KEY", "EC PRIVATE KEY", "X509 CRL",
  "CERTIFICATE REQUEST", "ECHCONFIG"].map Text.Utf8.encode

def isSpacing (b : UInt8) : Bool := (0x09 ≤ b && b ≤ 0x0d) || b = space

def isBase64Digit (b : UInt8) : Bool :=
  (0x41 ≤ b && b ≤ 0x5a) || (0x61 ≤ b && b ≤ 0x7a) || (0x30 ≤ b && b ≤ 0x39) || b = 0x2b || b = 0x2f

def padding : UInt8 := 0x3d

/-- Whether a text is base64: digits in groups of four, in the last of which one or two may be
missing or may all be replaced by padding. -/
def isBase64 (text : Bytes) : Bool :=
  let symbols := text.filter (!isSpacing ·)
  let digits := symbols.takeWhile (· ≠ padding)
  let pads := symbols.length - digits.length
  digits.all isBase64Digit && (symbols.drop digits.length).all (· = padding) &&
    (digits.length % 4, pads) ∈ [(0, 0), (2, 0), (2, 2), (3, 0), (3, 1)]

structure Section where
  label : Bytes
  content : Bytes
  deriving DecidableEq, Repr

/-- Whether the lines that follow, within the section `pending` if there is one, hold no
certificate and nothing malformed, and leave no section open. A section that begins within another
takes its place and keeps its content. -/
def scan (pending : Option Section) : List Bytes → Bool
  | [] => pending.isNone
  | line :: rest =>
    if beginMark.isPrefixOf line then
      match label? (line.drop beginMark.length) with
      | none => false
      | some label => scan (some ⟨label, (pending.map (·.content)).getD []⟩) rest
    else
      match pending with
      | none => scan none rest
      | some s =>
        if (endMark s.label).isPrefixOf line then
          s.label ≠ certificateLabel && (s.label ∉ readLabels || isBase64 s.content) &&
            scan none rest
        else scan (some { s with content := s.content ++ line }) rest

def isUsable (bytes : Bytes) : Bool := scan none (bytes.splitOnP fun b => b = 0x0a || b = 0x0d)

end IdentityGroups.Vault.Bundle
