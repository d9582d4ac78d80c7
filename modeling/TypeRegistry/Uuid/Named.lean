import TypeRegistry.Uuid.Digest

/-!
# Name-based UUIDs

A name in a namespace has a UUID of version 5: the first sixteen bytes of the digest of the
namespace's bytes and the name's UTF-8 bytes, with the version and the variant written into them.
Identifiers of the registry are named in a namespace of their own, which never changes.

Main definitions:

- `named`: the UUID of a name in a namespace.
- `registrySpace`: the namespace of the registry, the name `gts` among URLs.
- `text`: a UUID in its usual form.
-/

namespace TypeRegistry.Uuid

/-- The UTF-8 bytes of a string. -/
def utf8 (s : String) : List UInt8 :=
  s.toList.flatMap String.utf8EncodeChar

/-- Write version 5 and the variant into sixteen bytes. -/
def stamp (bytes : List UInt8) : List UInt8 :=
  bytes.zipIdx.map fun (byte, i) =>
    if i = 6 then (byte &&& 0x0F) ||| 0x50
    else if i = 8 then (byte &&& 0x3F) ||| 0x80
    else byte

/-- The UUID of a name in a namespace, as sixteen bytes. -/
def named (space : List UInt8) (name : String) : List UInt8 :=
  stamp ((digest (space ++ utf8 name)).take 16)

/-- The namespace of URLs. -/
def urlSpace : List UInt8 :=
  [0x6B, 0xA7, 0xB8, 0x11, 0x9D, 0xAD, 0x11, 0xD1, 0x80, 0xB4, 0x00, 0xC0, 0x4F, 0xD4, 0x30, 0xC8]

/-- The namespace of the registry's identifiers. -/
def registrySpace : List UInt8 :=
  named urlSpace "gts"

/-- The two hexadecimal digits of a byte. -/
def hexByte (byte : UInt8) : List Char :=
  [Nat.digitChar (byte.toNat / 16), Nat.digitChar (byte.toNat % 16)]

/-- The usual form of a UUID: hexadecimal digits in groups of 8, 4, 4, 4 and 12. -/
def text (bytes : List UInt8) : String :=
  String.ofList (bytes.zipIdx.flatMap fun (byte, i) =>
    (if i = 4 ∨ i = 6 ∨ i = 8 ∨ i = 10 then ['-'] else []) ++ hexByte byte)

/-- A UUID has sixteen bytes. -/
theorem length_named (space : List UInt8) (name : String) : (named space name).length = 16 := by
  simp [named, stamp, length_digest]

end TypeRegistry.Uuid
