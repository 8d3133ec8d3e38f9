import Knotwork.Digest.Sha1
import Knotwork.Text.Quoted

/-!
Name-based identifiers: sixteen bytes derived from a name, the same for the same name.
-/

namespace Knotwork.Digest

def utf8Char (c : Char) : List UInt8 :=
  let code := c.toNat
  let tail (shift : Nat) : UInt8 := UInt8.ofNat (0x80 + code / Nat.pow 2 shift % 64)
  if code < 0x80 then [UInt8.ofNat code]
  else if code < 0x800 then [UInt8.ofNat (0xc0 + code / Nat.pow 2 6), tail 0]
  else if code < 0x10000 then [UInt8.ofNat (0xe0 + code / Nat.pow 2 12), tail 6, tail 0]
  else [UInt8.ofNat (0xf0 + code / Nat.pow 2 18), tail 12, tail 6, tail 0]

def utf8 (t : Text) : List UInt8 := t.flatMap utf8Char

def locationSpace : List UInt8 :=
  [0x6b, 0xa7, 0xb8, 0x11, 0x9d, 0xad, 0x11, 0xd1, 0x80, 0xb4, 0x00, 0xc0, 0x4f, 0xd4, 0x30, 0xc8]

def nameId (space : List UInt8) (name : Text) : List UInt8 :=
  ((sha1 (space ++ utf8 name)).take 16).zipIdx.map fun (byte, index) =>
    if index = 6 then (byte &&& 0x0f) ||| 0x50
    else if index = 8 then (byte &&& 0x3f) ||| 0x80
    else byte

def renderId (bytes : List UInt8) : Text :=
  bytes.zipIdx.flatMap fun (byte, index) =>
    (if [4, 6, 8, 10].contains index then ['-'] else []) ++
      (Text.hexDigits 2 byte.toNat).map Char.toUpper

end Knotwork.Digest
