import Mathlib.Data.Nat.Digits.Defs

/-!
# Distinguished encoding

The values of ASN.1 that a digest is wrapped in, in their distinguished
encoding: a tag, the length of the contents and the contents. The encoding of a
value with its payload at the end is a header, which depends on the length of
the payload only, and the payload (`tlv_append`).
-/

namespace Encoding.Der

/-- The octets of a number, most significant first. -/
def octets (base n : Nat) : List UInt8 := (Nat.digits base n).reverse.map Nat.toUInt8

/-- The octets of a length, in the short form where it fits. -/
def length (n : Nat) : List UInt8 :=
  if n < 128 then [n.toUInt8] else (0x80 + (octets 256 n).length).toUInt8 :: octets 256 n

/-- A tag, the length of the contents and the contents. -/
def tlv (tag : UInt8) (contents : List UInt8) : List UInt8 :=
  tag :: length contents.length ++ contents

def sequence (contents : List UInt8) : List UInt8 := tlv 0x30 contents

def octetString (contents : List UInt8) : List UInt8 := tlv 0x04 contents

def null : List UInt8 := tlv 0x05 []

/-- The octets of one arc of an object identifier, all but the last marked. -/
def arc (n : Nat) : List UInt8 :=
  if n = 0 then [0] else
    (octets 128 n).dropLast.map (· + 0x80) ++ (octets 128 n).getLast?.toList

/-- An object identifier, whose first two arcs are one number. -/
def oid : List Nat → List UInt8
  | a :: b :: arcs => tlv 0x06 (((40 * a + b) :: arcs).flatMap arc)
  | _ => tlv 0x06 []

/-- An `AlgorithmIdentifier` with the parameters `NULL`. -/
def algorithmIdentifier (algorithm : List Nat) : List UInt8 := sequence (oid algorithm ++ null)

/-- `DigestInfo`: the algorithm of a digest and the digest. -/
def digestInfo (algorithm : List Nat) (digest : List UInt8) : List UInt8 :=
  sequence (algorithmIdentifier algorithm ++ octetString digest)

/-- What stands before a payload of length `n` and after the tag. -/
def header (tag : UInt8) (before : List UInt8) (n : Nat) : List UInt8 :=
  tag :: length (before.length + n) ++ before

theorem tlv_append (tag : UInt8) (before payload : List UInt8) :
    tlv tag (before ++ payload) = header tag before payload.length ++ payload := by
  simp [tlv, header]

/-- All of a `DigestInfo` but the digest, of length `n`. -/
def digestInfoHeader (algorithm : List Nat) (n : Nat) : List UInt8 :=
  header 0x30 (algorithmIdentifier algorithm ++ header 0x04 [] n) n

theorem digestInfo_eq (algorithm : List Nat) (digest : List UInt8) :
    digestInfo algorithm digest = digestInfoHeader algorithm digest.length ++ digest := by
  have ho : octetString digest = header 0x04 [] digest.length ++ digest := tlv_append 0x04 [] digest
  rw [digestInfo, ho, ← List.append_assoc, sequence, tlv_append, digestInfoHeader]

end Encoding.Der
