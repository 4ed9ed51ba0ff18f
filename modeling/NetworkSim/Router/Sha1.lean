import NetworkSim.Router.Protocol

/-!
# SHA-1

`router/sha1.c`, with which the client answers the server's request for authentication. The masks
with `0xFFFFFFFF` do nothing to a `UInt32`.
-/

namespace NetworkSim.Router

/-- `Message_Digest`, and the word buffers `A` to `E`. -/
structure MessageDigest where
  a : UInt32
  b : UInt32
  c : UInt32
  d : UInt32
  e : UInt32
  deriving DecidableEq

/-- `SHA1Context`. -/
structure SHA1Context where
  messageDigest : MessageDigest
  lengthLow : UInt32
  lengthHigh : UInt32
  messageBlock : List.Vector UInt8 64
  messageBlockIndex : ℕ
  computed : Bool
  corrupted : Bool

/-- The digest that `SHA1Reset` starts from. -/
def initialDigest : MessageDigest :=
  ⟨0x67452301, 0xEFCDAB89, 0x98BADCFE, 0x10325476, 0xC3D2E1F0⟩

/-- `SHA1Reset`. The message block keeps what memory holds there. -/
def sha1Reset (context : SHA1Context) : SHA1Context :=
  { context with
    lengthLow := 0, lengthHigh := 0, messageBlockIndex := 0, messageDigest := initialDigest
    computed := false, corrupted := false }

/-! ## One block -/

/-- `SHA1CircularShift`. -/
def sha1CircularShift (bits word : UInt32) : UInt32 := word <<< bits ||| word >>> (32 - bits)

/-- The first 16 words of `W`. -/
def firstWords (block : List UInt8) : List UInt32 :=
  (List.range 16).map fun t =>
    word32 (block.getD (t * 4) 0) (block.getD (t * 4 + 1) 0) (block.getD (t * 4 + 2) 0)
      (block.getD (t * 4 + 3) 0)

/-- The word sequence `W`. -/
def wordSequence (block : List UInt8) : List UInt32 :=
  (List.range' 16 64).foldl
    (fun w t => w ++ [sha1CircularShift 1
      (w.getD (t - 3) 0 ^^^ w.getD (t - 8) 0 ^^^ w.getD (t - 14) 0 ^^^ w.getD (t - 16) 0)])
    (firstWords block)

/-- The body of the four loops over `t`: they differ in the function of `B`, `C`, `D` and in the
constant. -/
def sha1Round (f : UInt32 → UInt32 → UInt32 → UInt32) (k : UInt32) (w : List UInt32)
    (s : MessageDigest) (t : ℕ) : MessageDigest :=
  let temp := sha1CircularShift 5 s.a + f s.b s.c s.d + s.e + w.getD t 0 + k
  ⟨temp, s.a, sha1CircularShift 30 s.b, s.c, s.d⟩

/-- The digest that `SHA1ProcessMessageBlock` computes from a digest and a block. -/
@[irreducible] def sha1Compress (digest : MessageDigest) (block : List UInt8) : MessageDigest :=
  let w := wordSequence block
  let s := (List.range' 0 20).foldl
    (sha1Round (fun b c d => b &&& c ||| ~~~b &&& d) 0x5A827999 w) digest
  let s := (List.range' 20 20).foldl (sha1Round (fun b c d => b ^^^ c ^^^ d) 0x6ED9EBA1 w) s
  let s := (List.range' 40 20).foldl
    (sha1Round (fun b c d => b &&& c ||| b &&& d ||| c &&& d) 0x8F1BBCDC w) s
  let s := (List.range' 60 20).foldl (sha1Round (fun b c d => b ^^^ c ^^^ d) 0xCA62C1D6 w) s
  ⟨digest.a + s.a, digest.b + s.b, digest.c + s.c, digest.d + s.d, digest.e + s.e⟩

/-- `SHA1ProcessMessageBlock`. -/
def sha1ProcessMessageBlock (context : SHA1Context) : SHA1Context :=
  { context with
    messageDigest := sha1Compress context.messageDigest context.messageBlock.toList
    messageBlockIndex := 0 }

/-! ## Input -/

/-- `context->Message_Block[context->Message_Block_Index++] = byte`. -/
def putByte (byte : UInt8) (context : SHA1Context) : SHA1Context :=
  { context with
    messageBlock := ⟨context.messageBlock.toList.set context.messageBlockIndex byte, by simp⟩
    messageBlockIndex := context.messageBlockIndex + 1 }

/-- The length in bits after one more byte: `Corrupted` when it does not fit into the two words. -/
def addLength (context : SHA1Context) : SHA1Context :=
  if context.lengthLow + 8 = 0 then
    if context.lengthHigh + 1 = 0 then
      { context with lengthLow := 0, lengthHigh := 0, corrupted := true }
    else { context with lengthLow := 0, lengthHigh := context.lengthHigh + 1 }
  else { context with lengthLow := context.lengthLow + 8 }

/-- The body of the loop of `SHA1Input`. -/
def inputByte (byte : UInt8) (context : SHA1Context) : SHA1Context :=
  let context := addLength (putByte byte context)
  if context.messageBlockIndex = 64 then sha1ProcessMessageBlock context else context

/-- The loop of `SHA1Input`. -/
def inputLoop : List UInt8 → SHA1Context → SHA1Context
  | [], context => context
  | byte :: bytes, context =>
    if context.corrupted then context else inputLoop bytes (inputByte byte context)

/-- `SHA1Input`. -/
def sha1Input (messageArray : List UInt8) (context : SHA1Context) : SHA1Context :=
  if messageArray = [] then context
  else if context.computed || context.corrupted then { context with corrupted := true }
  else inputLoop messageArray context

/-! ## The result -/

/-- `while(context->Message_Block_Index < n) context->Message_Block[context->Message_Block_Index++]
= 0`. -/
def putZeros (n : ℕ) (context : SHA1Context) : SHA1Context :=
  (putByte 0)^[n - context.messageBlockIndex] context

/-- The message length as the last 8 octets of the message block. -/
def storeLength (context : SHA1Context) : SHA1Context :=
  { context with
    messageBlock := ⟨overwrite 56 (bytes32 context.lengthHigh ++ bytes32 context.lengthLow)
      context.messageBlock.toList, by simp⟩ }

/-- `SHA1PadMessage`. -/
def sha1PadMessage (context : SHA1Context) : SHA1Context :=
  sha1ProcessMessageBlock <| storeLength <|
    if context.messageBlockIndex > 55 then
      putZeros 56 (sha1ProcessMessageBlock (putZeros 64 (putByte 0x80 context)))
    else putZeros 56 (putByte 0x80 context)

/-- `SHA1Result`: whether the digest is there, and the context. -/
def sha1Result (context : SHA1Context) : Bool × SHA1Context :=
  if context.corrupted then (false, context)
  else if context.computed then (true, context)
  else (true, { sha1PadMessage context with computed := true })

end NetworkSim.Router
