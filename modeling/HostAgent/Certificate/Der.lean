/-!
# Certificates

A certificate is a tree of values, each behind a tag and a length, of a fixed shape at its top.

* `element?` — one value and what follows it.
* `isCertificate` — whether bytes are a certificate: the part that is signed, the algorithm, and
  the signature, and in the first part the fields that every certificate has.
-/

namespace HostAgent.Certificate

/-- A value behind its tag. -/
structure Element where
  tag : Nat
  body : List UInt8

/-- The length of a value: one byte, or a count and so many bytes. -/
def length? : List UInt8 → Option (Nat × List UInt8)
  | [] => none
  | b :: r =>
    let n := b.toNat
    if n < 128 then some (n, r)
    else
      let count := n - 128
      let bytes := r.take count
      if count = 0 ∨ count > 8 ∨ bytes.length ≠ count then none
      else some (bytes.foldl (fun n b => 256 * n + b.toNat) 0, r.drop count)

/-- One value, and what follows it. -/
def element? : List UInt8 → Option (Element × List UInt8)
  | [] => none
  | tag :: r => do
    let (n, r) ← length? r
    if (r.take n).length = n then some (⟨tag.toNat, r.take n⟩, r.drop n) else none

/-- The values that bytes are made of, at most so many. -/
def elements? : Nat → List UInt8 → Option (List Element)
  | _, [] => some []
  | 0, _ :: _ => none
  | fuel + 1, bytes => do
    let (e, rest) ← element? bytes
    let es ← elements? fuel rest
    some (e :: es)

/-- The values inside a value, if it has the tag. -/
def Element.inside? (e : Element) (tag : Nat) : Option (List Element) :=
  if e.tag = tag then elements? e.body.length e.body else none

/-- The tag of a sequence. -/
def sequence : Nat := 0x30

/-- Whether these are the fields of the part that is signed: perhaps a version, the serial number,
the algorithm, the issuer, the validity, the subject and the key, and perhaps extensions. -/
def isSigned (fields : List Element) : Bool :=
  let fields := match fields with
    | v :: rest => if v.tag = 0xA0 then rest else v :: rest
    | [] => []
  match fields with
  | serial :: algorithm :: issuer :: validity :: subject :: key :: rest =>
    serial.tag == 0x02 && !serial.body.isEmpty &&
      [algorithm, issuer, validity, subject, key].all
        (fun e => (e.inside? sequence).isSome) &&
      ((validity.inside? sequence).map fun dates =>
        dates.length == 2 && dates.all fun d => d.tag == 0x17 || d.tag == 0x18) == some true &&
      ((key.inside? sequence).map fun parts => parts.map (·.tag) == [sequence, 0x03]) ==
        some true &&
      rest.all fun e => e.tag == 0x81 || e.tag == 0x82 || e.tag == 0xA1 || e.tag == 0xA2 ||
        e.tag == 0xA3
  | _ => false

/-- Whether bytes are a certificate. -/
def isCertificate (bytes : List UInt8) : Bool :=
  match element? bytes with
  | some (whole, _) =>
    match whole.inside? sequence with
    | some [signed, algorithm, signature] =>
      ((signed.inside? sequence).map isSigned) == some true &&
        (algorithm.inside? sequence).isSome && signature.tag == 0x03 && !signature.body.isEmpty
    | _ => false
  | none => false

end HostAgent.Certificate
