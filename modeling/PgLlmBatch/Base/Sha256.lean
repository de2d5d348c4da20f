import PgLlmBatch.Base.PyText

/-! SHA-256 (FIPS 180-4) of a byte string, its hexadecimal digest, and big-endian integers. -/
namespace PgLlmBatch.Base

def bigEndian : Nat → Nat → Bytes
  | 0, _ => []
  | width+1, n => bigEndian width (n / 256) ++ [.ofNat (n % 256)]

def natOfBigEndian (bs : Bytes) : Nat := bs.foldl (fun n b => n * 256 + b.toNat) 0

namespace Sha256

def initialHash : List UInt32 :=
  [0x6a09e667,0xbb67ae85,0x3c6ef372,0xa54ff53a,0x510e527f,0x9b05688c,0x1f83d9ab,0x5be0cd19]

def roundConstants : List UInt32 :=
  [0x428a2f98,0x71374491,0xb5c0fbcf,0xe9b5dba5,0x3956c25b,0x59f111f1,0x923f82a4,0xab1c5ed5,
   0xd807aa98,0x12835b01,0x243185be,0x550c7dc3,0x72be5d74,0x80deb1fe,0x9bdc06a7,0xc19bf174,
   0xe49b69c1,0xefbe4786,0x0fc19dc6,0x240ca1cc,0x2de92c6f,0x4a7484aa,0x5cb0a9dc,0x76f988da,
   0x983e5152,0xa831c66d,0xb00327c8,0xbf597fc7,0xc6e00bf3,0xd5a79147,0x06ca6351,0x14292967,
   0x27b70a85,0x2e1b2138,0x4d2c6dfc,0x53380d13,0x650a7354,0x766a0abb,0x81c2c92e,0x92722c85,
   0xa2bfe8a1,0xa81a664b,0xc24b8b70,0xc76c51a3,0xd192e819,0xd6990624,0xf40e3585,0x106aa070,
   0x19a4c116,0x1e376c08,0x2748774c,0x34b0bcb5,0x391c0cb3,0x4ed8aa4a,0x5b9cca4f,0x682e6ff3,
   0x748f82ee,0x78a5636f,0x84c87814,0x8cc70208,0x90befffa,0xa4506ceb,0xbef9a3f7,0xc67178f2]

def rotr (x : UInt32) (n : UInt32) : UInt32 := (x >>> n) ||| (x <<< (32 - n))

def choose (x y z : UInt32) : UInt32 := (x &&& y) ^^^ (~~~x &&& z)
def majority (x y z : UInt32) : UInt32 := (x &&& y) ^^^ (x &&& z) ^^^ (y &&& z)
def bigSigma0 (x : UInt32) : UInt32 := rotr x 2 ^^^ rotr x 13 ^^^ rotr x 22
def bigSigma1 (x : UInt32) : UInt32 := rotr x 6 ^^^ rotr x 11 ^^^ rotr x 25
def smallSigma0 (x : UInt32) : UInt32 := rotr x 7 ^^^ rotr x 18 ^^^ (x >>> 3)
def smallSigma1 (x : UInt32) : UInt32 := rotr x 17 ^^^ rotr x 19 ^^^ (x >>> 10)

-- The last sixteen words of the schedule, newest first, and the words still to be made.
def extend : Nat → List UInt32 → List UInt32 → List UInt32
  | 0, _, made => made
  | n+1, window, made =>
      let word := smallSigma1 (window.getD 1 0) + window.getD 6 0 + smallSigma0 (window.getD 14 0) + window.getD 15 0
      extend n ((word::window).take 16) (word::made)

def schedule (block : List UInt32) : List UInt32 := block ++ (extend 48 block.reverse []).reverse

structure Working where
  a : UInt32
  b : UInt32
  c : UInt32
  d : UInt32
  e : UInt32
  f : UInt32
  g : UInt32
  h : UInt32

def round (s : Working) (input : UInt32 × UInt32) : Working :=
  let t1 := s.h + bigSigma1 s.e + choose s.e s.f s.g + input.1 + input.2
  let t2 := bigSigma0 s.a + majority s.a s.b s.c
  ⟨t1 + t2,s.a,s.b,s.c,s.d + t1,s.e,s.f,s.g⟩

def Working.ofList (h : List UInt32) : Working :=
  ⟨h.getD 0 0,h.getD 1 0,h.getD 2 0,h.getD 3 0,h.getD 4 0,h.getD 5 0,h.getD 6 0,h.getD 7 0⟩

def Working.toList (s : Working) : List UInt32 := [s.a,s.b,s.c,s.d,s.e,s.f,s.g,s.h]

def compress (hash block : List UInt32) : List UInt32 :=
  let last := (roundConstants.zip (schedule block)).foldl round (.ofList hash)
  List.zipWith (· + ·) hash last.toList

def pad (message : Bytes) : Bytes :=
  message ++ 0x80::List.replicate ((55 + 64 - message.length % 64) % 64) 0 ++ bigEndian 8 (8 * message.length)

def chunks {α : Type} (width : Nat) : Nat → List α → List (List α)
  | 0, _ => []
  | n+1, xs => if xs.isEmpty then [] else xs.take width::chunks width n (xs.drop width)

def words (block : Bytes) : List UInt32 :=
  (chunks 4 block.length block).map (fun bs => .ofNat (natOfBigEndian bs))

def hashed (message : Bytes) : List UInt32 :=
  let padded := pad message
  (chunks 64 padded.length padded).foldl (fun hash block => compress hash (words block)) initialHash

end Sha256

def sha256 (message : Bytes) : Bytes := (Sha256.hashed message).flatMap (fun word => bigEndian 4 word.toNat)

def hexDigit (n : Nat) : PyChar := if n < 10 then ⟨0x30 + n % 10,digitBelow n⟩ else ⟨0x61 + n % 16 - 10,letterBelow n⟩

def hex (bs : Bytes) : PyStr := bs.flatMap (fun b => [hexDigit (b.toNat / 16),hexDigit (b.toNat % 16)])

def sha256Hex (message : Bytes) : PyStr := hex (sha256 message)

namespace Sha256

theorem compressLength {hash : List UInt32} (eight : hash.length = 8) (block : List UInt32) :
    (compress hash block).length = 8 := by
  unfold compress
  rw [List.length_zipWith,eight]
  rfl

theorem hashedLength (message : Bytes) : (hashed message).length = 8 := by
  change ((chunks 64 (pad message).length (pad message)).foldl _ initialHash).length = 8
  generalize chunks 64 (pad message).length (pad message) = blocks
  have start : initialHash.length = 8 := rfl
  generalize initialHash = hash at start ⊢
  induction blocks generalizing hash with
  | nil => exact start
  | cons block blocks ih => exact ih _ (compressLength start _)

end Sha256

@[simp] theorem bigEndianLength (width n : Nat) : (bigEndian width n).length = width := by
  induction width generalizing n with
  | zero => rfl
  | succ width ih => rw [bigEndian,List.length_append,ih,List.length_singleton]

theorem sha256Length (message : Bytes) : (sha256 message).length = 32 := by
  unfold sha256
  rw [List.length_flatMap]
  have four : (Sha256.hashed message).map (fun word => (bigEndian 4 word.toNat).length) =
      List.replicate 8 4 := by
    rw [← Sha256.hashedLength message]
    simp only [bigEndianLength,List.map_const']
  rw [four]
  rfl

theorem hexLength (bs : Bytes) : (hex bs).length = 2 * bs.length := by
  induction bs with
  | nil => rfl
  | cons b bs ih =>
    have step : hex (b::bs) = [hexDigit (b.toNat / 16),hexDigit (b.toNat % 16)] ++ hex bs := rfl
    rw [step,List.length_append,ih,List.length_cons]
    simp only [List.length_cons,List.length_nil]
    omega

example : sha256Hex [0x61,0x62,0x63] =
    py "ba7816bf8f01cfea414140de5dae2223b00361a396177a9cb410ff61f20015ad" := by decide +kernel
example : sha256Hex [] = py "e3b0c44298fc1c149afbf4c8996fb92427ae41e4649b934ca495991b7852b855" := by decide +kernel

end PgLlmBatch.Base
