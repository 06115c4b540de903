/-!
# MD5 digests

The MD5 message digest (RFC 1321) of a byte sequence, and its lowercase hexadecimal text.
A repository that names no usable id is known by the digest of its url's UTF-8 bytes.

The message is padded with one `0x80` byte, zero bytes up to 56 modulo 64, and the bit
length as eight little-endian bytes; each 64-byte block is then folded into four 32-bit
words by sixty-four rounds.
-/

namespace RepoRouting.Digest

/-- Left rotation of a 32-bit word. -/
def rotl (x : UInt32) (n : UInt32) : UInt32 :=
  (x <<< n) ||| (x >>> (32 - n))

/-- The sine table of the algorithm: `⌊|sin (i + 1)| * 2^32⌋`. -/
def sineTable : Array UInt32 := #[
  0xd76aa478, 0xe8c7b756, 0x242070db, 0xc1bdceee, 0xf57c0faf, 0x4787c62a, 0xa8304613, 0xfd469501,
  0x698098d8, 0x8b44f7af, 0xffff5bb1, 0x895cd7be, 0x6b901122, 0xfd987193, 0xa679438e, 0x49b40821,
  0xf61e2562, 0xc040b340, 0x265e5a51, 0xe9b6c7aa, 0xd62f105d, 0x02441453, 0xd8a1e681, 0xe7d3fbc8,
  0x21e1cde6, 0xc33707d6, 0xf4d50d87, 0x455a14ed, 0xa9e3e905, 0xfcefa3f8, 0x676f02d9, 0x8d2a4c8a,
  0xfffa3942, 0x8771f681, 0x6d9d6122, 0xfde5380c, 0xa4beea44, 0x4bdecfa9, 0xf6bb4b60, 0xbebfbc70,
  0x289b7ec6, 0xeaa127fa, 0xd4ef3085, 0x04881d05, 0xd9d4d039, 0xe6db99e5, 0x1fa27cf8, 0xc4ac5665,
  0xf4292244, 0x432aff97, 0xab9423a7, 0xfc93a039, 0x655b59c3, 0x8f0ccc92, 0xffeff47d, 0x85845dd1,
  0x6fa87e4f, 0xfe2ce6e0, 0xa3014314, 0x4e0811a1, 0xf7537e82, 0xbd3af235, 0x2ad7d2bb, 0xeb86d391]

/-- The rotation amounts, four per round group. -/
def shiftTable : Array UInt32 := #[
  7, 12, 17, 22, 7, 12, 17, 22, 7, 12, 17, 22, 7, 12, 17, 22,
  5, 9, 14, 20, 5, 9, 14, 20, 5, 9, 14, 20, 5, 9, 14, 20,
  4, 11, 16, 23, 4, 11, 16, 23, 4, 11, 16, 23, 4, 11, 16, 23,
  6, 10, 15, 21, 6, 10, 15, 21, 6, 10, 15, 21, 6, 10, 15, 21]

/-- The four chaining words. -/
structure State where
  a : UInt32
  b : UInt32
  c : UInt32
  d : UInt32

/-- The chaining words before the first block. -/
def State.initial : State := ⟨0x67452301, 0xefcdab89, 0x98badcfe, 0x10325476⟩

/-- The little-endian word at byte offset `4 * i` of a block. -/
def wordAt (block : Array UInt8) (i : Nat) : UInt32 :=
  let byte (k : Nat) : UInt32 := (block.getD (4 * i + k) 0).toUInt32
  byte 0 ||| (byte 1 <<< 8) ||| (byte 2 <<< 16) ||| (byte 3 <<< 24)

/-- Round `i` of the sixty-four: the mixing function and message word change every
sixteen rounds. -/
def round (m : Array UInt32) (s : State) (i : Nat) : State :=
  let (f, g) :=
    if i < 16 then ((s.b &&& s.c) ||| (~~~s.b &&& s.d), i)
    else if i < 32 then ((s.d &&& s.b) ||| (~~~s.d &&& s.c), (5 * i + 1) % 16)
    else if i < 48 then (s.b ^^^ s.c ^^^ s.d, (3 * i + 5) % 16)
    else (s.c ^^^ (s.b ||| ~~~s.d), (7 * i) % 16)
  let f := f + s.a + sineTable.getD i 0 + m.getD g 0
  ⟨s.d, s.b + rotl f (shiftTable.getD i 0), s.b, s.c⟩

/-- Folds one 64-byte block into the chaining words. -/
def compress (s : State) (block : Array UInt8) : State :=
  let m := (List.range 16).toArray.map (wordAt block)
  let t := (List.range 64).foldl (round m) s
  ⟨s.a + t.a, s.b + t.b, s.c + t.c, s.d + t.d⟩

/-- The eight little-endian bytes of a number. -/
def le64 (n : Nat) : List UInt8 :=
  (List.range 8).map fun k => (n >>> (8 * k)).toUInt8

/-- The message with its padding and length: a multiple of 64 bytes long. -/
def padded (msg : List UInt8) : List UInt8 :=
  let zeros := (119 - msg.length % 64) % 64
  msg ++ [0x80] ++ List.replicate zeros 0 ++ le64 (8 * msg.length)

/-- Folds the blocks of a padded message, one block per unit of `fuel`. -/
def compressAll : Nat → State → List UInt8 → State
  | 0, s, _ => s
  | fuel + 1, s, bytes =>
    if bytes.isEmpty then s else compressAll fuel (compress s (bytes.take 64).toArray) (bytes.drop 64)

/-- The sixteen digest bytes: the chaining words, each little-endian. -/
def digest (msg : List UInt8) : List UInt8 :=
  let p := padded msg
  let s := compressAll (p.length / 64) State.initial p
  let bytes (w : UInt32) : List UInt8 := (List.range 4).map fun k => (w >>> (8 * k).toUInt32).toUInt8
  bytes s.a ++ bytes s.b ++ bytes s.c ++ bytes s.d

/-- The lowercase hexadecimal digit of a number below sixteen. -/
def hexDigit (n : Nat) : Char :=
  if n < 10 then Char.ofNat (48 + n) else Char.ofNat (87 + n)

/-- Two lowercase hexadecimal digits per byte. -/
def hex (bytes : List UInt8) : String :=
  String.ofList (bytes.flatMap fun b => [hexDigit (b.toNat / 16), hexDigit (b.toNat % 16)])

/-- The 32-digit lowercase hexadecimal MD5 digest of a text's UTF-8 bytes. -/
def md5Hex (s : String) : String :=
  hex (digest s.toUTF8.toList)

end RepoRouting.Digest
