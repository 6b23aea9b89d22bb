/-
  Eag.Foundation.Sha256

  `hashlib.sha256(text.encode()).hexdigest()`: the SHA-256 compression of the
  padded UTF-8 bytes, written as 64 lowercase hexadecimal digits. The proofs use
  only that the result is a digest; that no two texts in play collide is an
  assumption of the theorems that need it (`CollisionFreeOn`).
-/

import Eag.Foundation.Json
import Eag.Foundation.Text
import Mathlib.Data.Set.Function

namespace Eag.Foundation

namespace Sha256

abbrev Word := BitVec 32

/-- The round constants. -/
def roundConstants : List Word :=
  [0x428a2f98, 0x71374491, 0xb5c0fbcf, 0xe9b5dba5, 0x3956c25b, 0x59f111f1, 0x923f82a4,
   0xab1c5ed5, 0xd807aa98, 0x12835b01, 0x243185be, 0x550c7dc3, 0x72be5d74, 0x80deb1fe,
   0x9bdc06a7, 0xc19bf174, 0xe49b69c1, 0xefbe4786, 0x0fc19dc6, 0x240ca1cc, 0x2de92c6f,
   0x4a7484aa, 0x5cb0a9dc, 0x76f988da, 0x983e5152, 0xa831c66d, 0xb00327c8, 0xbf597fc7,
   0xc6e00bf3, 0xd5a79147, 0x06ca6351, 0x14292967, 0x27b70a85, 0x2e1b2138, 0x4d2c6dfc,
   0x53380d13, 0x650a7354, 0x766a0abb, 0x81c2c92e, 0x92722c85, 0xa2bfe8a1, 0xa81a664b,
   0xc24b8b70, 0xc76c51a3, 0xd192e819, 0xd6990624, 0xf40e3585, 0x106aa070, 0x19a4c116,
   0x1e376c08, 0x2748774c, 0x34b0bcb5, 0x391c0cb3, 0x4ed8aa4a, 0x5b9cca4f, 0x682e6ff3,
   0x748f82ee, 0x78a5636f, 0x84c87814, 0x8cc70208, 0x90befffa, 0xa4506ceb, 0xbef9a3f7,
   0xc67178f2]

/-- The eight working words. -/
structure State where
  a : Word
  b : Word
  c : Word
  d : Word
  e : Word
  f : Word
  g : Word
  h : Word

def initial : State :=
  ⟨0x6a09e667, 0xbb67ae85, 0x3c6ef372, 0xa54ff53a, 0x510e527f, 0x9b05688c, 0x1f83d9ab,
   0x5be0cd19⟩

/-- One round with its message word and constant. -/
def round (s : State) (w k : Word) : State :=
  let s1 := s.e.rotateRight 6 ^^^ s.e.rotateRight 11 ^^^ s.e.rotateRight 25
  let ch := (s.e &&& s.f) ^^^ (~~~s.e &&& s.g)
  let t1 := s.h + s1 + ch + k + w
  let s0 := s.a.rotateRight 2 ^^^ s.a.rotateRight 13 ^^^ s.a.rotateRight 22
  let maj := (s.a &&& s.b) ^^^ (s.a &&& s.c) ^^^ (s.b &&& s.c)
  ⟨t1 + (s0 + maj), s.a, s.b, s.c, s.d + t1, s.e, s.f, s.g⟩

/-- The next word of the message schedule, from the last sixteen. -/
def nextWord (window : List Word) : Word :=
  match window with
  | [w0, w1, _, _, _, _, _, _, _, w9, _, _, _, _, w14, _] =>
      w0 + (w1.rotateRight 7 ^^^ w1.rotateRight 18 ^^^ (w1 >>> 3)) + w9 +
        (w14.rotateRight 17 ^^^ w14.rotateRight 19 ^^^ (w14 >>> 10))
  | _ => 0

/-- All rounds of one block: the first word of the window is consumed, and the
    window slides. -/
def rounds : List Word → State → List Word → State
  | [], s, _ => s
  | k :: ks, s, window =>
      rounds ks (round s (window.headD 0) k) (window.tail ++ [nextWord window])

/-- The compression function. -/
def compress (s : State) (block : List Word) : State :=
  let t := rounds roundConstants s block
  ⟨s.a + t.a, s.b + t.b, s.c + t.c, s.d + t.d, s.e + t.e, s.f + t.f, s.g + t.g, s.h + t.h⟩

/-- The message with its padding, as bytes. -/
def pad (message : List UInt8) : List UInt8 :=
  let zeros := (119 - message.length % 64) % 64
  let bits := message.length * 8
  message ++ [0x80] ++ List.replicate zeros 0 ++
    (List.range 8).map fun i => UInt8.ofNat (bits / 256 ^ (7 - i) % 256)

/-- Four bytes as a word, most significant first. -/
def words : List UInt8 → List Word
  | a :: b :: c :: d :: rest =>
      BitVec.ofNat 32 (((a.toNat * 256 + b.toNat) * 256 + c.toNat) * 256 + d.toNat) ::
        words rest
  | _ => []

/-- Compress every block of sixteen words; `fuel` bounds the number of blocks. -/
def compressAll : Nat → State → List Word → State
  | 0, s, _ => s
  | fuel + 1, s, ws =>
      if ws.isEmpty then s else compressAll fuel (compress s (ws.take 16)) (ws.drop 16)

/-- The digest as eight words. -/
def digest (message : List UInt8) : State :=
  let ws := words (pad message)
  compressAll ws.length initial ws

end Sha256

/-- The eight lowercase hexadecimal digits of a word. -/
def wordHex (w : BitVec 32) : List Char := hex4 (w.toNat / 65536) ++ hex4 (w.toNat % 65536)

/-- `hashlib.sha256(message).hexdigest()`. -/
def sha256HexBytes (message : List UInt8) : String :=
  let s := Sha256.digest message
  String.ofList (wordHex s.a ++ wordHex s.b ++ wordHex s.c ++ wordHex s.d ++ wordHex s.e ++
    wordHex s.f ++ wordHex s.g ++ wordHex s.h)

/-- `hashlib.sha256(text.encode()).hexdigest()`. -/
def sha256Hex (text : String) : String :=
  let s := Sha256.digest text.toUTF8.data.toList
  String.ofList (wordHex s.a ++ wordHex s.b ++ wordHex s.c ++ wordHex s.d ++ wordHex s.e ++
    wordHex s.f ++ wordHex s.g ++ wordHex s.h)

example : sha256Hex "abc" = "ba7816bf8f01cfea414140de5dae2223b00361a396177a9cb410ff61f20015ad" := by
  decide +kernel

/-! ## Digests -/

/-- A lowercase SHA-256 digest. -/
def IsDigest (s : String) : Prop :=
  s.toList.length = 64 ∧ ∀ c ∈ s.toList, c ∈ "0123456789abcdef".toList

instance (s : String) : Decidable (IsDigest s) :=
  inferInstanceAs (Decidable (_ ∧ _))

theorem hexDigit_mem (n : Nat) : hexDigit n ∈ "0123456789abcdef".toList := by
  unfold hexDigit
  split <;> decide

theorem hex4_mem (n : Nat) : ∀ c ∈ hex4 n, c ∈ "0123456789abcdef".toList := by
  intro c hc
  simp only [hex4, List.mem_cons, List.not_mem_nil, or_false] at hc
  rcases hc with rfl | rfl | rfl | rfl <;> exact hexDigit_mem _

theorem wordHex_mem (w : BitVec 32) : ∀ c ∈ wordHex w, c ∈ "0123456789abcdef".toList := by
  intro c hc
  rcases List.mem_append.mp hc with h | h <;> exact hex4_mem _ c h

theorem isDigest_sha256HexBytes (message : List UInt8) :
    IsDigest (sha256HexBytes message) := by
  unfold sha256HexBytes
  constructor
  · simp only [String.toList_ofList, List.length_append]
    rfl
  · intro c hc
    simp only [String.toList_ofList, List.mem_append] at hc
    rcases hc with ((((((h | h) | h) | h) | h) | h) | h) | h <;> exact wordHex_mem _ c h

theorem isDigest_sha256Hex (text : String) : IsDigest (sha256Hex text) :=
  isDigest_sha256HexBytes text.toUTF8.data.toList

attribute [irreducible] sha256Hex sha256HexBytes

/-- No two of these texts have the same digest. -/
def CollisionFreeOn (texts : Set String) : Prop := Set.InjOn sha256Hex texts

/-- `_digest` and `canonical_digest`: the digest of the compact sorted JSON text. -/
def jsonDigest (value : Json) : String := sha256Hex value.dumps

theorem isDigest_jsonDigest (value : Json) : IsDigest (jsonDigest value) :=
  isDigest_sha256Hex _

/-- A digest is not blank. -/
theorem nonBlank_of_isDigest {s : String} (h : IsDigest s) : NonBlank s := by
  obtain ⟨hlen, hmem⟩ := h
  cases hs : s.toList with
  | nil => rw [hs] at hlen; cases hlen
  | cons c cs =>
      refine nonBlank_of_mem (c := c) (by simp [hs]) ?_
      have hc := hmem c (by simp [hs])
      revert hc
      generalize c = d
      intro hd
      have hall : ∀ d ∈ "0123456789abcdef".toList, isSpace d = false := by
        simp [isSpace]
      exact hall d hd

/-- Where the texts do not collide, equal digests come from equal values. -/
theorem jsonDigest_inj {texts : Set String} (hs : CollisionFreeOn texts) {v w : Json}
    (hv : v.Canonical) (hw : w.Canonical) (hvm : v.dumps ∈ texts) (hwm : w.dumps ∈ texts)
    (h : jsonDigest v = jsonDigest w) : v = w :=
  Json.dumps_injective hv hw (hs hvm hwm h)

end Eag.Foundation
