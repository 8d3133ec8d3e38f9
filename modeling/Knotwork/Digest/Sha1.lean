/-!
The SHA-1 digest of a sequence of bytes.
-/

namespace Knotwork.Digest

structure Sha1 where
  a : UInt32
  b : UInt32
  c : UInt32
  d : UInt32
  e : UInt32
deriving DecidableEq

def rotateLeft (word : UInt32) (count : UInt32) : UInt32 :=
  (word <<< count) ||| (word >>> (32 - count))

def bytesOf (width n : Nat) : List UInt8 :=
  (List.range width).map fun i => UInt8.ofNat (n / Nat.pow 256 (width - 1 - i) % 256)

def pad (message : List UInt8) : List UInt8 :=
  message ++ [0x80] ++ List.replicate ((119 - message.length % 64) % 64) 0 ++
    bytesOf 8 (8 * message.length)

def words : List UInt8 → List UInt32
  | a :: b :: c :: d :: rest =>
      ((a.toUInt32 <<< 24) ||| (b.toUInt32 <<< 16) ||| (c.toUInt32 <<< 8) ||| d.toUInt32) ::
        words rest
  | _ => []

def schedule : Nat → List UInt32 → List UInt32
  | 0, _ => []
  | count + 1, recent =>
      -- The latest of the last sixteen words stands first.
      recent.getD 15 0 ::
        schedule count
          (rotateLeft (recent.getD 2 0 ^^^ recent.getD 7 0 ^^^ recent.getD 13 0 ^^^
            recent.getD 15 0) 1 :: recent.take 15)

namespace Sha1

def round (s : Sha1) (index : Nat) (word : UInt32) : Sha1 :=
  let (mixed, constant) : UInt32 × UInt32 :=
    if index < 20 then ((s.b &&& s.c) ||| ((~~~s.b) &&& s.d), 0x5a827999)
    else if index < 40 then (s.b ^^^ s.c ^^^ s.d, 0x6ed9eba1)
    else if index < 60 then ((s.b &&& s.c) ||| (s.b &&& s.d) ||| (s.c &&& s.d), 0x8f1bbcdc)
    else (s.b ^^^ s.c ^^^ s.d, 0xca62c1d6)
  ⟨rotateLeft s.a 5 + mixed + s.e + constant + word, s.a, rotateLeft s.b 30, s.c, s.d⟩

def absorb (s : Sha1) (block : List UInt32) : Sha1 :=
  let t := (schedule 80 block.reverse).zipIdx.foldl (fun t (word, index) => t.round index word) s
  ⟨s.a + t.a, s.b + t.b, s.c + t.c, s.d + t.d, s.e + t.e⟩

def absorbBlocks : Nat → Sha1 → List UInt32 → Sha1
  | 0, s, _ => s
  | count + 1, s, rest => absorbBlocks count (s.absorb (rest.take 16)) (rest.drop 16)

def toBytes (s : Sha1) : List UInt8 :=
  [s.a, s.b, s.c, s.d, s.e].flatMap fun word => bytesOf 4 word.toNat

end Sha1

def sha1 (message : List UInt8) : List UInt8 :=
  let stream := words (pad message)
  (Sha1.absorbBlocks (stream.length / 16)
    ⟨0x67452301, 0xefcdab89, 0x98badcfe, 0x10325476, 0xc3d2e1f0⟩ stream).toBytes

end Knotwork.Digest
