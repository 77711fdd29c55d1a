import Mathlib.Data.List.Basic
import Mathlib.Tactic.Lemma

/-!
# Base64

Three bytes to four letters, and padding where fewer are left.  `decode_encode` is that nothing is
lost.
-/

namespace Base64

/-- The letters of the alphabet, in the order of their values. -/
def alphabet : List Char :=
  "ABCDEFGHIJKLMNOPQRSTUVWXYZabcdefghijklmnopqrstuvwxyz0123456789+/".toList

def letter (value : Nat) : Char := alphabet.getD value '='

def valueOf (c : Char) : Option Nat := alphabet.idxOf? c

/-- The letters of some bytes. -/
def encode : List UInt8 → List Char
  | [] => []
  | [a] =>
      [letter (a.toNat / 4), letter (a.toNat % 4 * 16), '=', '=']
  | [a, b] =>
      [letter (a.toNat / 4), letter (a.toNat % 4 * 16 + b.toNat / 16),
        letter (b.toNat % 16 * 4), '=']
  | a :: b :: c :: rest =>
      letter (a.toNat / 4) :: letter (a.toNat % 4 * 16 + b.toNat / 16)
        :: letter (b.toNat % 16 * 4 + c.toNat / 64) :: letter (c.toNat % 64) :: encode rest

def firstByte (p q : Nat) : UInt8 := .ofNat (p * 4 + q / 16)

def secondByte (q r : Nat) : UInt8 := .ofNat (q % 16 * 16 + r / 4)

def thirdByte (r s : Nat) : UInt8 := .ofNat (r % 4 * 64 + s)

/-- The bytes of four letters, of which the last two may be padding. -/
def quantum (p q r s : Char) : Option (List UInt8) := do
  let p ← valueOf p
  let q ← valueOf q
  if r = '=' ∧ s = '=' then return [firstByte p q]
  let r ← valueOf r
  if s = '=' then return [firstByte p q, secondByte q r]
  let s ← valueOf s
  return [firstByte p q, secondByte q r, thirdByte r s]

/-- The bytes of some letters.  Padding ends them. -/
def decode : List Char → Option (List UInt8)
  | [] => some []
  | p :: q :: r :: s :: rest => do
      let bytes ← quantum p q r s
      let more ← if s = '=' ∧ rest ≠ [] then none else decode rest
      return bytes ++ more
  | _ => none

lemma valueOf_letter {value : Nat} (h : value < 64) : valueOf (letter value) = some value := by
  have hall : ∀ value < 64, valueOf (letter value) = some value := by decide +kernel
  exact hall value h

lemma letter_ne {value : Nat} (h : value < 64) : letter value ≠ '=' := by
  have hall : ∀ value < 64, letter value ≠ '=' := by decide +kernel
  exact hall value h

section Bytes

variable (a b c : UInt8)

lemma firstByte_eq {low : Nat} (h : low < 16) :
    firstByte (a.toNat / 4) (a.toNat % 4 * 16 + low) = a := by
  have hvalue : a.toNat / 4 * 4 + (a.toNat % 4 * 16 + low) / 16 = a.toNat := by omega
  rw [firstByte, hvalue, UInt8.ofNat_toNat]

lemma secondByte_eq {high low : Nat} (h : low < 4) :
    secondByte (high * 16 + b.toNat / 16) (b.toNat % 16 * 4 + low) = b := by
  have hlt := b.toNat_lt
  have hvalue : (high * 16 + b.toNat / 16) % 16 * 16 + (b.toNat % 16 * 4 + low) / 4 = b.toNat := by
    omega
  rw [secondByte, hvalue, UInt8.ofNat_toNat]

lemma thirdByte_eq {high : Nat} : thirdByte (high * 4 + c.toNat / 64) (c.toNat % 64) = c := by
  have hlt := c.toNat_lt
  have hvalue : (high * 4 + c.toNat / 64) % 4 * 64 + c.toNat % 64 = c.toNat := by omega
  rw [thirdByte, hvalue, UInt8.ofNat_toNat]

end Bytes

/-- **Decoding gives back what was encoded.** -/
theorem decode_encode (bytes : List UInt8) : decode (encode bytes) = some bytes := by
  induction bytes using encode.induct with
  | case1 => rfl
  | case2 a =>
      have hlt := a.toNat_lt
      have hfirst := firstByte_eq a (show 0 < 16 by decide)
      rw [encode, decode, quantum, valueOf_letter (by omega), valueOf_letter (by omega)]
      simpa [decode] using hfirst
  | case3 a b =>
      have hlt := a.toNat_lt
      have hlt' := b.toNat_lt
      have hfirst := firstByte_eq a (show b.toNat / 16 < 16 by omega)
      have hsecond := @secondByte_eq b (a.toNat % 4) 0 (by decide)
      rw [encode, decode, quantum, valueOf_letter (by omega), valueOf_letter (by omega),
        valueOf_letter (by omega)]
      simpa [decode, letter_ne (show b.toNat % 16 * 4 < 64 by omega)] using ⟨hfirst, hsecond⟩
  | case4 a b c rest ih =>
      have hlt := a.toNat_lt
      have hlt' := b.toNat_lt
      have hlt'' := c.toNat_lt
      have hfirst := firstByte_eq a (show b.toNat / 16 < 16 by omega)
      have hsecond := @secondByte_eq b (a.toNat % 4) (c.toNat / 64) (by omega)
      have hthird := @thirdByte_eq c (b.toNat % 16)
      rw [encode, decode, quantum, valueOf_letter (by omega), valueOf_letter (by omega),
        valueOf_letter (by omega), valueOf_letter (by omega)]
      simp [letter_ne (show c.toNat % 64 < 64 by omega), ih, hfirst, hsecond, hthird]

end Base64
