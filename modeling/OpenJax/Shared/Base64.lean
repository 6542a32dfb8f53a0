import Mathlib.Data.List.Basic
import OpenJax.Shared.Lines

set_option autoImplicit false

namespace OpenJax.Shared.Base64

def alphabet : List Char :=
  "ABCDEFGHIJKLMNOPQRSTUVWXYZabcdefghijklmnopqrstuvwxyz0123456789-_".toList

def symbol (value : Nat) : Char := alphabet.getD value 'A'

def value (c : Char) : Option Nat :=
  if c ∈ alphabet then some (alphabet.idxOf c) else none

theorem value_symbol : ∀ number < 64, value (symbol number) = some number := by
  decide +kernel

def encodeBytes : Bytes → List Char
  | [] => []
  | [a] => [symbol (a.toNat / 4), symbol (a.toNat % 4 * 16)]
  | [a, b] =>
      [symbol (a.toNat / 4), symbol (a.toNat % 4 * 16 + b.toNat / 16), symbol (b.toNat % 16 * 4)]
  | a :: b :: c :: rest =>
      symbol (a.toNat / 4) :: symbol (a.toNat % 4 * 16 + b.toNat / 16) ::
        symbol (b.toNat % 16 * 4 + c.toNat / 64) :: symbol (c.toNat % 64) :: encodeBytes rest

def decodeValues : List Nat → Option Bytes
  | [] => some []
  | [_] => none
  | [p, q] => if q % 16 = 0 then some [UInt8.ofNat (p * 4 + q / 16)] else none
  | [p, q, r] =>
      if r % 4 = 0 then
        some [UInt8.ofNat (p * 4 + q / 16), UInt8.ofNat (q % 16 * 16 + r / 4)]
      else none
  | p :: q :: r :: s :: rest =>
      (decodeValues rest).map fun bytes =>
        UInt8.ofNat (p * 4 + q / 16) :: UInt8.ofNat (q % 16 * 16 + r / 4) ::
          UInt8.ofNat (r % 4 * 64 + s) :: bytes

def encode (bytes : Bytes) : String := String.ofList (encodeBytes bytes)

def decode (text : String) : Option Bytes := (text.toList.mapM value).bind decodeValues

theorem byte_eq {byte : UInt8} {number : Nat} (same : number = byte.toNat) :
    UInt8.ofNat number = byte := by
  rw [same]
  exact UInt8.ofNat_toNat

theorem decode_encodeBytes (bytes : Bytes) :
    ((encodeBytes bytes).mapM value).bind decodeValues = some bytes := by
  induction bytes using encodeBytes.induct with
  | case1 => rfl
  | case2 a =>
    have small := a.toNat_lt
    have first : UInt8.ofNat (a.toNat / 4 * 4 + a.toNat % 4 * 16 / 16) = a := byte_eq (by omega)
    simp only [encodeBytes, List.mapM_cons, List.mapM_nil, value_symbol (a.toNat / 4) (by omega),
      value_symbol (a.toNat % 4 * 16) (by omega), Option.bind_eq_bind, Option.pure_def,
      Option.bind_some, decodeValues, first, Nat.mul_mod_left, if_true]
  | case3 a b =>
    have small := a.toNat_lt
    have smallB := b.toNat_lt
    have first : UInt8.ofNat (a.toNat / 4 * 4 + (a.toNat % 4 * 16 + b.toNat / 16) / 16) = a :=
      byte_eq (by omega)
    have second : UInt8.ofNat ((a.toNat % 4 * 16 + b.toNat / 16) % 16 * 16 +
        b.toNat % 16 * 4 / 4) = b := byte_eq (by omega)
    simp only [encodeBytes, List.mapM_cons, List.mapM_nil, value_symbol (a.toNat / 4) (by omega),
      value_symbol (a.toNat % 4 * 16 + b.toNat / 16) (by omega),
      value_symbol (b.toNat % 16 * 4) (by omega), Option.bind_eq_bind, Option.pure_def,
      Option.bind_some, decodeValues, first, second, Nat.mul_mod_left, if_true]
  | case4 a b c rest ih =>
    have small := a.toNat_lt
    have smallB := b.toNat_lt
    have smallC := c.toNat_lt
    have first : UInt8.ofNat (a.toNat / 4 * 4 + (a.toNat % 4 * 16 + b.toNat / 16) / 16) = a :=
      byte_eq (by omega)
    have second : UInt8.ofNat ((a.toNat % 4 * 16 + b.toNat / 16) % 16 * 16 +
        (b.toNat % 16 * 4 + c.toNat / 64) / 4) = b := byte_eq (by omega)
    have third : UInt8.ofNat ((b.toNat % 16 * 4 + c.toNat / 64) % 4 * 64 + c.toNat % 64) = c :=
      byte_eq (by omega)
    obtain ⟨values, read, decoded⟩ := Option.bind_eq_some_iff.mp ih
    simp only [encodeBytes, List.mapM_cons, value_symbol (a.toNat / 4) (by omega),
      value_symbol (a.toNat % 4 * 16 + b.toNat / 16) (by omega),
      value_symbol (b.toNat % 16 * 4 + c.toNat / 64) (by omega),
      value_symbol (c.toNat % 64) (by omega), read, Option.bind_eq_bind, Option.pure_def,
      Option.bind_some, decodeValues, decoded, Option.map_some, first, second, third]

theorem decode_encode (bytes : Bytes) : decode (encode bytes) = some bytes := by
  rw [decode, encode, String.toList_ofList]
  exact decode_encodeBytes bytes

end OpenJax.Shared.Base64
