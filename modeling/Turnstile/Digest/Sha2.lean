namespace Turnstile.Digest

structure Sha2 where
  wordBytes : Nat
  rounds : Nat
  /-- Two mixings by three rotations. -/
  upper : Nat × Nat × Nat
  lower : Nat × Nat × Nat
  /-- Two mixings by two rotations and a shift, for the schedule. -/
  early : Nat × Nat × Nat
  late : Nat × Nat × Nat
  /-- How many primes come before the eight that give the start values. -/
  skipped : Nat
  /-- How much of the last state is the hash. -/
  digestBytes : Nat
deriving DecidableEq, Repr

namespace Sha2

def bits (h : Sha2) : Nat := 8 * h.wordBytes

def blockBytes (h : Sha2) : Nat := 16 * h.wordBytes

abbrev Word (h : Sha2) := BitVec h.bits

def sha256 : Sha2 := ⟨4, 64, (2, 13, 22), (6, 11, 25), (7, 18, 3), (17, 19, 10), 0, 32⟩

def sha384 : Sha2 := ⟨8, 80, (28, 34, 39), (14, 18, 41), (1, 8, 7), (19, 61, 6), 8, 48⟩

def sha512 : Sha2 := ⟨8, 80, (28, 34, 39), (14, 18, 41), (1, 8, 7), (19, 61, 6), 0, 64⟩

def primesBelow (n : Nat) : List Nat :=
  (List.range n).filter fun p => 2 ≤ p && (List.range p).all fun d => d < 2 || p % d != 0

/-- The largest number between `low` and `low + Nat.pow 2 steps - 1` whose power does not exceed `n`. -/
def rootFrom (power n : Nat) : Nat → Nat → Nat
  | 0, low => low
  | steps + 1, low =>
    let mid := low + Nat.pow 2 steps
    rootFrom power n steps (if Nat.pow mid power ≤ n then mid else low)

def rootBits (bits power n : Nat) : Nat := rootFrom power (n * Nat.pow 2 (power * bits)) (bits + 5) 0

variable (h : Sha2)

def start : List h.Word :=
  ((primesBelow 54).drop h.skipped).take 8 |>.map fun p => BitVec.ofNat _ (rootBits h.bits 2 p)

def constants : List h.Word :=
  (primesBelow 410).take h.rounds |>.map fun p => BitVec.ofNat _ (rootBits h.bits 3 p)

variable {h}

def rotations (r : Nat × Nat × Nat) (x : h.Word) : h.Word :=
  x.rotateRight r.1 ^^^ x.rotateRight r.2.1 ^^^ x.rotateRight r.2.2

def rotationsAndShift (r : Nat × Nat × Nat) (x : h.Word) : h.Word :=
  x.rotateRight r.1 ^^^ x.rotateRight r.2.1 ^^^ (x >>> r.2.2)

/-- Moves the window of sixteen words on by one. -/
def slide (window : List h.Word) : List h.Word :=
  match window with
  | w0 :: rest =>
    rest ++ [w0 + rotationsAndShift h.early (window.getD 1 0) + window.getD 9 0
      + rotationsAndShift h.late (window.getD 14 0)]
  | [] => []

def round (state : List h.Word) (k w : h.Word) : List h.Word :=
  match state with
  | [a, b, c, d, e, f, g, i] =>
    let t := i + rotations h.lower e + ((e &&& f) ^^^ (~~~e &&& g)) + k + w
    let u := rotations h.upper a + ((a &&& b) ^^^ (a &&& c) ^^^ (b &&& c))
    [t + u, a, b, c, d + t, e, f, g]
  | _ => state

def mix (window : List h.Word) : List h.Word → List h.Word → List h.Word
  | [], state => state
  | k :: ks, state => mix (slide window) ks (round state k (window.headD 0))

def ofBytes (bytes : List UInt8) : Nat := bytes.foldl (fun n b => n * 256 + b.toNat) 0

def toBytes : Nat → Nat → List UInt8
  | 0, _ => []
  | count + 1, n => toBytes count (n / 256) ++ [UInt8.ofNat n]

def parts {α : Type} (size : Nat) : Nat → List α → List (List α)
  | 0, _ => []
  | fuel + 1, xs => if xs.isEmpty then [] else xs.take size :: parts size fuel (xs.drop size)

variable (h)

/-- A message is followed by a single bit, by zeros up to a full block, and by its own length. -/
def pad (message : List UInt8) : List UInt8 :=
  let used := message.length + 1 + 2 * h.wordBytes
  message ++ 128 :: List.replicate ((h.blockBytes - used % h.blockBytes) % h.blockBytes) 0
    ++ toBytes (2 * h.wordBytes) (8 * message.length)

def absorb (constants : List h.Word) (state : List h.Word) (block : List UInt8) : List h.Word :=
  let window := (parts h.wordBytes 16 block).map fun b => BitVec.ofNat h.bits (ofBytes b)
  List.zipWith (· + ·) state (mix window constants state)

def hash (message : List UInt8) : List UInt8 :=
  let padded := h.pad message
  let state := (parts h.blockBytes padded.length padded).foldl (h.absorb h.constants) h.start
  (state.flatMap fun w => toBytes h.wordBytes w.toNat).take h.digestBytes

end Sha2

/-- A keyed hash: the key, filled up to a block, goes into two hashes, one within the other. -/
def hmac (h : Sha2) (key message : List UInt8) : List UInt8 :=
  let short := if key.length ≤ h.blockBytes then key else h.hash key
  let block := short ++ List.replicate (h.blockBytes - short.length) 0
  h.hash (block.map (· ^^^ 0x5c) ++ h.hash (block.map (· ^^^ 0x36) ++ message))

end Turnstile.Digest
