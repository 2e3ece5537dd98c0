import Mathlib.Data.Nat.Notation

/-!
# ChangeOps.Lib.Sha2 — SHA-256 of a text

FIPS 180-4 on the UTF-8 bytes of a text. A word is a number below `2 ^ 32`. The words of a round are
`computed` before the next round uses them, so that the kernel can evaluate the digest of a short text
in well under a second.
-/

namespace ChangeOps

namespace Sha2

/-! ## Words -/

/-- `f n`, where `n` is evaluated first. -/
def computed {α : Type} (n : Nat) (f : Nat → α) : α :=
  match n with
  | 0 => f 0
  | n + 1 => f n.succ

def word (n : Nat) : Nat := n % 4294967296

def rotr (k x : Nat) : Nat := (x >>> k) ||| word (x <<< (32 - k))

def ch (x y z : Nat) : Nat := (x &&& y) ^^^ ((4294967295 - x) &&& z)

def maj (x y z : Nat) : Nat := (x &&& y) ^^^ (x &&& z) ^^^ (y &&& z)

def bigSigma0 (x : Nat) : Nat := rotr 2 x ^^^ rotr 13 x ^^^ rotr 22 x

def bigSigma1 (x : Nat) : Nat := rotr 6 x ^^^ rotr 11 x ^^^ rotr 25 x

def smallSigma0 (x : Nat) : Nat := rotr 7 x ^^^ rotr 18 x ^^^ (x >>> 3)

def smallSigma1 (x : Nat) : Nat := rotr 17 x ^^^ rotr 19 x ^^^ (x >>> 10)

/-! ## Blocks -/

/-- The constants of the rounds. -/
def roundConstants : List Nat :=
  [1116352408, 1899447441, 3049323471, 3921009573, 961987163, 1508970993, 2453635748,
    2870763221, 3624381080, 310598401, 607225278, 1426881987, 1925078388, 2162078206, 2614888103,
    3248222580, 3835390401, 4022224774, 264347078, 604807628, 770255983, 1249150122, 1555081692,
    1996064986, 2554220882, 2821834349, 2952996808, 3210313671, 3336571891, 3584528711,
    113926993, 338241895, 666307205, 773529912, 1294757372, 1396182291, 1695183700, 1986661051,
    2177026350, 2456956037, 2730485921, 2820302411, 3259730800, 3345764771, 3516065817,
    3600352804, 4094571909, 275423344, 430227734, 506948616, 659060556, 883997877, 958139571,
    1322822218, 1537002063, 1747873779, 1955562222, 2024104815, 2227730452, 2361852424,
    2428436474, 2756734187, 3204031479, 3329325298]

/-- The hash so far. -/
structure Chain where
  (a b c d e f g h : Nat)

def initial : Chain :=
  ⟨1779033703, 3144134277, 1013904242, 2773480762, 1359893119, 2600822924, 528734635, 1541459225⟩

/-- The working variables, after the next sixteen words of the message schedule. -/
structure Work where
  (w₀ w₁ w₂ w₃ w₄ w₅ w₆ w₇ w₈ w₉ w₁₀ w₁₁ w₁₂ w₁₃ w₁₄ w₁₅ : Nat)
  chain : Chain

def round : Work → Nat → Work
  | ⟨w₀, w₁, w₂, w₃, w₄, w₅, w₆, w₇, w₈, w₉, w₁₀, w₁₁, w₁₂, w₁₃, w₁₄, w₁₅, ⟨a, b, c, d, e, f, g, h⟩⟩, k =>
    computed (word (smallSigma1 w₁₄ + w₉ + smallSigma0 w₁ + w₀)) fun w₁₆ =>
    computed (h + bigSigma1 e + ch e f g + k + w₀) fun t =>
    computed (word (d + t)) fun e' =>
    computed (word (t + bigSigma0 a + maj a b c)) fun a' =>
      ⟨w₁, w₂, w₃, w₄, w₅, w₆, w₇, w₈, w₉, w₁₀, w₁₁, w₁₂, w₁₃, w₁₄, w₁₅, w₁₆, ⟨a', a, b, c, e', e, f, g⟩⟩

/-- The hash after one more block of sixteen words. -/
def compress (H : Chain) : List Nat → Chain
  | [w₀, w₁, w₂, w₃, w₄, w₅, w₆, w₇, w₈, w₉, w₁₀, w₁₁, w₁₂, w₁₃, w₁₄, w₁₅] =>
    let work := roundConstants.foldl round
      ⟨w₀, w₁, w₂, w₃, w₄, w₅, w₆, w₇, w₈, w₉, w₁₀, w₁₁, w₁₂, w₁₃, w₁₄, w₁₅, H⟩
    match work.chain with
    | ⟨a, b, c, d, e, f, g, h⟩ =>
      ⟨word (H.a + a), word (H.b + b), word (H.c + c), word (H.d + d),
        word (H.e + e), word (H.f + f), word (H.g + g), word (H.h + h)⟩
  | _ => H

def compressAll : (blocks : Nat) → List Nat → Chain → Chain
  | 0, _, H => H
  | blocks + 1, words, H => compressAll blocks (words.drop 16) (compress H (words.take 16))

/-! ## Messages -/

/-- A number as bytes, the highest first. -/
def bigEndian (length n : Nat) : List Nat :=
  (List.range length).reverse.map fun i => (n >>> (8 * i)) % 256

/-- One bit, zeros, and the number of bits of the message. -/
def padding (length : Nat) : List Nat :=
  128 :: List.replicate ((119 - length % 64) % 64) 0 ++ bigEndian 8 (length * 8)

def wordsOf : List Nat → List Nat
  | b₃ :: b₂ :: b₁ :: b₀ :: bytes =>
    computed (((b₃ * 256 + b₂) * 256 + b₁) * 256 + b₀) fun w => w :: wordsOf bytes
  | _ => []

def hash (bytes : List Nat) : Chain :=
  let words := wordsOf (bytes ++ padding bytes.length)
  compressAll (words.length / 16) words initial

/-! ## Digests -/

/-- A word in hexadecimal. -/
def hexWord (w : Nat) : List Char :=
  (List.range 8).reverse.map fun i => Nat.digitChar ((w >>> (4 * i)) % 16)

def Chain.hexWords (H : Chain) : List Char :=
  [H.a, H.b, H.c, H.d, H.e, H.f, H.g, H.h].flatMap hexWord

/-- `hashlib.sha256(text.encode("utf-8")).hexdigest()`. -/
def hexdigest (text : String) : String :=
  String.ofList (hash (text.toUTF8.data.toList.map UInt8.toNat)).hexWords

example : hexdigest "abc" =
    "ba7816bf8f01cfea414140de5dae2223b00361a396177a9cb410ff61f20015ad" := by
  decide +kernel

end Sha2

end ChangeOps
