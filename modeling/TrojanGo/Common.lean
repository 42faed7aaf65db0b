import TrojanGo.Go.Strings
import Mathlib.Data.Nat.Digits

/-!
# The user key

`common.SHA224String`: the key of a user is the SHA-224 digest of the password, written byte
after byte with `fmt.Sprintf("%02x", v)`. The digest comes from `crypto/sha256`, which is not
under `src/`; the model takes the hash as a parameter whose sums have `sha256.Size224` bytes.

Every key has 56 lowercase hex digits and reads back, two digits a byte, as the digest; the
encoding of one byte is two digits wide and injective, for the bytes below `0x10` too
(`sha224String_spec`).
-/

set_option autoImplicit false

namespace TrojanGo.Common

/-- `sha256.New224()` as `SHA224String` uses it: `Write` of the password's bytes, then
`Sum(nil)`, which has `sha256.Size224` bytes. -/
structure Hash224 where
  sum : List UInt8 → List UInt8
  size : ∀ data, (sum data).length = 28

/-- `[]byte(password)`: the UTF-8 encoding of the runes. -/
def bytesOf (password : GoString) : List UInt8 := (String.mk password).toUTF8.data.toList

/-- The bytes of a password are the UTF-8 encodings of its runes, in order. -/
theorem bytesOf_eq_flatMap (password : GoString) : bytesOf password = password.flatMap String.utf8EncodeChar :=
  rfl

/-- An ASCII password is its own bytes: each rune below 128 is one byte, its code point. -/
theorem bytesOf_of_ascii {password : GoString} (ascii : ∀ c ∈ password, c.toNat < 128) :
    bytesOf password = password.map fun c => c.toNat.toUInt8 := by
  rw [bytesOf_eq_flatMap]
  induction password with
  | nil => rfl
  | cons c rest ih =>
      rw [List.forall_mem_cons] at ascii
      have oneByte : c.val ≤ 0x7f := Nat.lt_succ_iff.mp ascii.1
      simp [String.utf8EncodeChar, oneByte, ih ascii.2, UInt32.toUInt8, Char.toNat]

/-- `fmt.Sprintf("%0<width>x", v)`: the lowercase hex digits of `v`, padded on the left with
`0` to `width` runes. -/
def sprintfHex (width v : Nat) : GoString :=
  let digits := Nat.toDigits 16 v
  List.replicate (width - digits.length) '0' ++ digits

/-- `SHA224String`. -/
def sha224String (hash : Hash224) (password : GoString) : GoString :=
  let val := hash.sum (bytesOf password)
  val.foldl (fun str v => str ++ sprintfHex 2 v.toNat) []

/-! ## Reading a key back -/

/-- A lowercase hex digit, `[0-9a-f]`. -/
def isLowerHex (c : Char) : Bool := ('0' ≤ c && c ≤ '9') || ('a' ≤ c && c ≤ 'f')

/-- The value of a lowercase hex digit. -/
def hexValue (c : Char) : Option Nat :=
  if '0' ≤ c ∧ c ≤ '9' then some (c.toNat - '0'.toNat)
  else if 'a' ≤ c ∧ c ≤ 'f' then some (c.toNat - 'a'.toNat + 10)
  else none

/-- Reading a hex string two digits at a time, high digit first. -/
def decodeHex : GoString → Option (List UInt8)
  | [] => some []
  | [_] => none
  | high :: low :: rest => do
      let h ← hexValue high
      let l ← hexValue low
      let bytes ← decodeHex rest
      pure ((h * 16 + l).toUInt8 :: bytes)

/-- The hex digits of a byte: one below `0x10`, two from there on. -/
theorem toDigits_byte {v : Nat} (byte : v < 256) :
    Nat.toDigits 16 v =
      if v < 16 then [Nat.digitChar v] else [Nat.digitChar (v / 16), Nat.digitChar (v % 16)] := by
  by_cases small : v < 16
  · simp [Nat.toDigits, Nat.toDigitsCore, small, Nat.div_eq_of_lt small, Nat.mod_eq_of_lt small]
  · obtain ⟨u, rfl⟩ : ∃ u, v = u + 1 := ⟨v - 1, by omega⟩
    have high : (u + 1) / 16 ≠ 0 := by omega
    have top : (u + 1) / 16 / 16 = 0 := by omega
    have digit : (u + 1) / 16 % 16 = (u + 1) / 16 := Nat.mod_eq_of_lt (by omega)
    simp [Nat.toDigits, Nat.toDigitsCore, small, high, top, digit]

/-- `%02x` writes every byte as exactly two digits, high half first. -/
theorem sprintfHex_byte {v : Nat} (byte : v < 256) :
    sprintfHex 2 v = [Nat.digitChar (v / 16), Nat.digitChar (v % 16)] := by
  by_cases small : v < 16
  · simp [sprintfHex, toDigits_byte byte, small, Nat.div_eq_of_lt small, Nat.mod_eq_of_lt small,
      Nat.digitChar]
  · simp [sprintfHex, toDigits_byte byte, small]

/-- Each of the sixteen digits is a lowercase hex digit and reads back as its value. -/
theorem digitChar_hex {n : Nat} (digit : n < 16) :
    isLowerHex (Nat.digitChar n) = true ∧ hexValue (Nat.digitChar n) = some n := by
  rcases n with _ | _ | _ | _ | _ | _ | _ | _ | _ | _ | _ | _ | _ | _ | _ | _ | n
  all_goals first | decide | omega

/-- `SHA224String`'s loop appends the digits of each byte in turn. -/
theorem foldl_sprintfHex (val : List UInt8) (acc : GoString) :
    val.foldl (fun str v => str ++ sprintfHex 2 v.toNat) acc =
      acc ++ val.flatMap fun v => sprintfHex 2 v.toNat := by
  induction val generalizing acc with
  | nil => simp
  | cons v rest ih => simp [ih, List.append_assoc]

/-- The two digits of a byte read back as the byte. -/
theorem decodeHex_sprintfHex (v : UInt8) (rest : GoString) :
    decodeHex (sprintfHex 2 v.toNat ++ rest) = (decodeHex rest).map (v :: ·) := by
  have byte : v.toNat < 256 := v.toNat_lt_size
  have high := (digitChar_hex (n := v.toNat / 16) (by omega)).2
  have low := (digitChar_hex (n := v.toNat % 16) (by omega)).2
  have halves : v.toNat / 16 * 16 + v.toNat % 16 = v.toNat := by omega
  have back : v.toNat.toUInt8 = v := UInt8.toNat.inj (UInt8.toNat_ofNat_of_lt byte)
  cases decoded : decodeHex rest <;>
    simp [sprintfHex_byte byte, decodeHex, high, low, halves, decoded, back]

/-- Writing bytes and reading them back gives the bytes. -/
theorem decodeHex_flatMap (bytes : List UInt8) :
    decodeHex (bytes.flatMap fun v => sprintfHex 2 v.toNat) = some bytes := by
  induction bytes with
  | nil => rfl
  | cons v rest ih => simp [decodeHex_sprintfHex, ih]

/-- Every key has 56 lowercase hex digits and reads back, two digits a byte, as the digest of
the password; the encoding of a byte is injective and two digits wide for every byte value. -/
theorem sha224String_spec (hash : Hash224) (password : GoString) :
    (sha224String hash password).length = 56 ∧
      (∀ c ∈ sha224String hash password, isLowerHex c = true) ∧
      decodeHex (sha224String hash password) = some (hash.sum (bytesOf password)) ∧
      (∀ v w : UInt8, sprintfHex 2 v.toNat = sprintfHex 2 w.toNat → v = w) ∧
      ∀ v : UInt8, (sprintfHex 2 v.toNat).length = 2 := by
  have written : sha224String hash password =
      (hash.sum (bytesOf password)).flatMap fun v => sprintfHex 2 v.toNat := by
    simp [sha224String, foldl_sprintfHex]
  have width (v : UInt8) : (sprintfHex 2 v.toNat).length = 2 := by
    simp [sprintfHex_byte v.toNat_lt_size]
  have twice (bytes : List UInt8) :
      (bytes.flatMap fun v => sprintfHex 2 v.toNat).length = 2 * bytes.length := by
    induction bytes with
    | nil => rfl
    | cons v rest ih => simp only [List.flatMap_cons, List.length_append, width, ih]; simp; omega
  refine ⟨by rw [written, twice, hash.size], fun c member => ?_, by rw [written, decodeHex_flatMap],
    fun v w same => ?_, width⟩
  · rw [written, List.mem_flatMap] at member
    obtain ⟨v, -, digit⟩ := member
    have byte : v.toNat < 256 := v.toNat_lt_size
    rw [sprintfHex_byte byte, List.mem_pair] at digit
    rcases digit with rfl | rfl <;> exact (digitChar_hex (by omega)).1
  · have read := decodeHex_sprintfHex v []
    rw [same, decodeHex_sprintfHex] at read
    simpa [decodeHex] using read.symm

end TrojanGo.Common
