import DefaultArgs.Text.Escape

/-!
# Type and signature identities

Types, methods and constructors are identified by 64-bit hashes. A type's hash comes from its
name; a method's or constructor's from its owner, its name and its parameter types in order. Domain
markers keep the three apart, and a marker for each position makes the order of parameters count.

## Main definitions

* `words bytes`: the whole words of the input and the bytes left over
* `stripes acc ws`: four accumulators fed with four words at a time
* `digest bytes`: the digest with seed zero
* `Identity`: the identity of a type or a signature
* `Identity.ofName`, `Identity.ofMethod`, `Identity.ofConstructor`: its three sources
* `Identity.toHex`: its written form
-/

namespace DefaultArgs

/-! ## The XXH64 digest

A digest of 64 bits over a list of bytes. The bytes are read as little-endian words of eight. Four
words at a time feed four accumulators; the words and bytes that are left are folded in one by one,
and a final avalanche spreads every bit.
-/

namespace Xxh64

def prime1 : UInt64 := 0x9E3779B185EBCA87
def prime2 : UInt64 := 0xC2B2AE3D27D4EB4F
def prime3 : UInt64 := 0x165667B19E3779F9
def prime4 : UInt64 := 0x85EBCA77C2B2AE63
def prime5 : UInt64 := 0x27D4EB2F165667C5

/-- Rotate to the left by `count` bits, for `0 < count < 64`. -/
def rotate (x : UInt64) (count : UInt64) : UInt64 :=
  (x <<< count) ||| (x >>> (64 - count))

/-- The number that little-endian bytes stand for. -/
def littleEndian (bytes : List UInt8) : UInt64 :=
  bytes.foldr (fun byte rest => rest <<< 8 ||| byte.toUInt64) 0

/-- The whole words of the input, and the fewer than eight bytes left over. -/
def words : List UInt8 → List UInt64 × List UInt8
  | b0 :: b1 :: b2 :: b3 :: b4 :: b5 :: b6 :: b7 :: rest =>
    let (ws, left) := words rest
    (littleEndian [b0, b1, b2, b3, b4, b5, b6, b7] :: ws, left)
  | left => ([], left)

/-- Feed one word to an accumulator. -/
def feed (acc word : UInt64) : UInt64 :=
  rotate (acc + word * prime2) 31 * prime1

/-- The four accumulators. -/
structure Lanes where
  first : UInt64
  second : UInt64
  third : UInt64
  fourth : UInt64

/-- The accumulators before any word is fed to them. -/
def Lanes.start : Lanes :=
  ⟨prime1 + prime2, prime2, 0, 0 - prime1⟩

/-- Feed the words to the accumulators, four at a time; the fewer than four words left over are
returned. -/
def stripes (acc : Lanes) : List UInt64 → Lanes × List UInt64
  | w0 :: w1 :: w2 :: w3 :: rest =>
    stripes ⟨feed acc.first w0, feed acc.second w1, feed acc.third w2, feed acc.fourth w3⟩ rest
  | left => (acc, left)

/-- Fold one accumulator into the combined value. -/
def merge (combined acc : UInt64) : UInt64 :=
  (combined ^^^ feed 0 acc) * prime1 + prime4

/-- The combined value of the four accumulators. -/
def Lanes.combine (acc : Lanes) : UInt64 :=
  let sum := rotate acc.first 1 + rotate acc.second 7 + rotate acc.third 12 + rotate acc.fourth 18
  merge (merge (merge (merge sum acc.first) acc.second) acc.third) acc.fourth

/-- Fold in a word that is left over. -/
def foldWord (hash word : UInt64) : UInt64 :=
  rotate (hash ^^^ feed 0 word) 27 * prime1 + prime4

/-- Fold in a byte that is left over. -/
def foldByte (hash : UInt64) (byte : UInt8) : UInt64 :=
  rotate (hash ^^^ byte.toUInt64 * prime5) 11 * prime1

/-- Fold in the bytes after the last whole word: four of them as half a word, then singly. -/
def foldBytes (hash : UInt64) : List UInt8 → UInt64
  | b0 :: b1 :: b2 :: b3 :: rest =>
    let half := littleEndian [b0, b1, b2, b3]
    rest.foldl foldByte (rotate (hash ^^^ half * prime1) 23 * prime2 + prime3)
  | rest => rest.foldl foldByte hash

/-- Spread every bit over the whole value. -/
def avalanche (hash : UInt64) : UInt64 :=
  let hash := (hash ^^^ hash >>> 33) * prime2
  let hash := (hash ^^^ hash >>> 29) * prime3
  hash ^^^ hash >>> 32

/-- The digest of the bytes with seed zero. -/
def digest (bytes : List UInt8) : UInt64 :=
  let (ws, tail) := words bytes
  let (acc, left) := stripes Lanes.start ws
  let hash := if ws.length < 4 then prime5 else acc.combine
  let hash := hash + UInt64.ofNat bytes.length
  avalanche (foldBytes (left.foldl foldWord hash) tail)

/-- The digest of a text in UTF-8. -/
def ofString (text : String) : UInt64 :=
  digest (text.toList.flatMap String.utf8EncodeChar)

end Xxh64

/-! ## Identities -/

/-- The identity of a type or a signature. -/
structure Identity where
  bits : UInt64
deriving DecidableEq, Repr, Inhabited

namespace Identity

/-- The odd factor that separates one parameter from the next. -/
def separator : UInt64 := 0x4bc94d6bd06053ad

/-- The domain marker of types. -/
def typeMarker : UInt64 := 0x2fac10b63a6cc57c

/-- The domain marker of methods. -/
def methodMarker : UInt64 := 0x7d3c8b4a92e15f6d

/-- The domain marker of constructors. -/
def constructorMarker : UInt64 := 0x9a7f3d5e2b8c4601

/-- The marker of the first parameter. -/
def firstMarker : UInt64 := 0x9e3779b97f4a7c15

/-- The markers of the second to the sixteenth parameter. -/
def furtherMarkers : List UInt64 :=
  [0xbf58476d1ce4e5b9, 0x94d049bb133111eb, 0xd6e8feb86659fd93, 0xe7037ed1a0b428db,
   0xc6a4a7935bd1e995, 0x8648dbbc94d49b8d, 0xa2b48b2c69e0d657, 0x7c3e9f2a5b8d1403,
   0x5d8c7b4a3e9f2106, 0x3f1e9d8c7b5a4203, 0x1a2b3c4d5e6f7089, 0x9f8e7d6c5b4a3210,
   0x2468ace013579bdf, 0xfdb97531eca86420, 0x123456789abcdef0]

/-- The marker of a parameter position, counted from zero. Positions beyond the list get the first
marker plus the position. -/
def positionMarker (position : Nat) : UInt64 :=
  (firstMarker :: furtherMarkers)[position]?.getD (firstMarker + UInt64.ofNat position)

/-- Mix the parameter types from `position` on into `hash`. -/
def mixFrom (position : Nat) (hash : UInt64) : List Identity → UInt64
  | [] => hash
  | param :: rest =>
    mixFrom (position + 1) (hash * separator + (positionMarker position ^^^ param.bits)) rest

/-- The identity of a type, from its name. -/
def ofName (name : String) : Identity :=
  ⟨typeMarker ^^^ Xxh64.ofString name⟩

/-- The identity of a method, from its owner, its name and its parameter types. -/
def ofMethod (owner : Identity) (name : String) (params : List Identity) : Identity :=
  ⟨mixFrom 0 (methodMarker ^^^ owner.bits ^^^ Xxh64.ofString name) params⟩

/-- The identity of a constructor, from its owner and its parameter types. -/
def ofConstructor (owner : Identity) (params : List Identity) : Identity :=
  ⟨mixFrom 0 (constructorMarker ^^^ owner.bits) params⟩

/-- The sixteen hexadecimal digits of a hash after the marker `0x`. -/
def toHex (hash : Identity) : String :=
  "0x" ++ String.ofList (Text.hexDigits 16 hash.bits.toNat)

instance : ToString Identity := ⟨toHex⟩

end Identity

end DefaultArgs
