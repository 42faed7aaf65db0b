import TrojanGo.Go.Strings
import Mathlib.Data.List.GetD

/-!
# Go `net` addresses

`net.IP` values and the functions of Go's `net` package that the router calls: `IP.To4`,
`CIDRMask`, `IP.Mask`, `IPNet.Contains` and `ParseIP`, translated from the standard library.
A `nil` slice is the empty list: the code reads these results only through their length
and through comparisons with `nil`, and no result that is not `nil` is empty.
-/

set_option autoImplicit false

namespace TrojanGo.Net

/-- A Go byte slice. -/
abbrev Bytes := List UInt8

/-- A `net.IP` that holds an address: four bytes, or sixteen. -/
structure IP where
  bytes : Bytes
  wellFormed : bytes.length = 4 ∨ bytes.length = 16
  deriving DecidableEq

/-- Package a slice as an `IP` when it has the length of one. -/
def IP.ofBytes? (bytes : Bytes) : Option IP :=
  if wellFormed : bytes.length = 4 ∨ bytes.length = 16 then some ⟨bytes, wellFormed⟩ else none

/-- `v4InV6Prefix`: the first twelve bytes of an IPv4-mapped IPv6 address. -/
def v4InV6Prefix : Bytes := [0, 0, 0, 0, 0, 0, 0, 0, 0, 0, 0xff, 0xff]

/-- `IP.To4`: the four-byte form of an IPv4 address, or `none` for Go's `nil`. -/
def to4 (ip : Bytes) : Option Bytes :=
  if ip.length = 4 then some ip
  else if ip.length = 16 ∧ ip.take 12 = v4InV6Prefix then some (ip.drop 12)
  else none

/-- The address family of an IP: IPv4 exactly when `To4` answers. -/
def IP.isIPv4 (ip : IP) : Bool := (to4 ip.bytes).isSome

/-- The bit length of an IP's family. -/
def IP.bitLength (ip : IP) : Nat := if ip.isIPv4 then 32 else 128

/-- The bytes an IP's prefix is read from: the four-byte form of an IPv4 address. -/
def IP.canonical (ip : IP) : Bytes := (to4 ip.bytes).getD ip.bytes

/-! ## Masks -/

/-- One byte of `CIDRMask` while `n` bits remain to be set: `0xff`, or `^byte(0xff >> n)`. -/
def maskByte (n : Nat) : UInt8 :=
  if 8 ≤ n then 0xff else ~~~((0xff : UInt8) >>> n.toUInt8)

/-- The loop of `CIDRMask`: `l` bytes whose first `n` bits are set. -/
def maskBytes : Nat → Nat → Bytes
  | 0, _ => []
  | l + 1, n => maskByte n :: maskBytes l (n - 8)

/-- `net.CIDRMask(ones, bits)`, for the non-negative `ones` the router passes. -/
def cidrMask (ones bits : Nat) : Bytes :=
  if bits ≠ 32 ∧ bits ≠ 128 then []
  else if bits < ones then []
  else maskBytes (bits / 8) ones

/-- `IP.Mask`: the bytes of `ip` under `mask`, once a sixteen-byte mask of an IPv4 address
and an IPv4-mapped address under a four-byte mask are cut to four bytes. -/
def ipMask (ip mask : Bytes) : Bytes :=
  let mask := if mask.length = 16 ∧ ip.length = 4 ∧ (mask.take 12).all (· = 0xff) then mask.drop 12
    else mask
  let ip := if mask.length = 4 ∧ ip.length = 16 ∧ ip.take 12 = v4InV6Prefix then ip.drop 12 else ip
  if ip.length ≠ mask.length then [] else List.zipWith (· &&& ·) ip mask

/-- `net.IPNet`. -/
structure IPNet where
  ip : Bytes
  mask : Bytes

/-- The mask-length switch of `networkNumberAndMask`, once the network number is chosen. -/
def networkMask (ip m : Bytes) : Bytes × Bytes :=
  if m.length = 4 then (if ip.length ≠ 4 then ([], []) else (ip, m))
  else if m.length = 16 then (ip, if ip.length = 4 then m.drop 12 else m)
  else ([], [])

/-- `networkNumberAndMask`: the network number in its short form and a mask of its length. -/
def networkNumberAndMask (n : IPNet) : Bytes × Bytes :=
  match to4 n.ip with
  | some ip => networkMask ip n.mask
  | none => if n.ip.length ≠ 16 then ([], []) else networkMask n.ip n.mask

/-- The comparison loop of `IPNet.Contains`: every byte agrees under the mask. -/
def maskedEqual : Bytes → Bytes → Bytes → Bool
  | nn :: network, m :: mask, b :: ip => (nn &&& m == b &&& m) && maskedEqual network mask ip
  | _, _, _ => true

/-- `IPNet.Contains`. -/
def IPNet.contains (n : IPNet) (ip : Bytes) : Bool :=
  let (nn, m) := networkNumberAndMask n
  let ip := (to4 ip).getD ip
  ip.length == nn.length && maskedEqual nn m ip

/-! ## Masks select prefixes -/

/-- Bit `i` of an address, counted from the most significant bit of its first byte. -/
def bit (bytes : Bytes) (i : Nat) : Bool := (bytes.getD (i / 8) 0).toBitVec.getMsbD (i % 8)

/-- Two addresses agree on their first `p` bits. -/
def AgreeOn (p : Nat) (a b : Bytes) : Prop := ∀ i < p, bit a i = bit b i

instance (p : Nat) (a b : Bytes) : Decidable (AgreeOn p a b) :=
  inferInstanceAs (Decidable (∀ i < p, bit a i = bit b i))

theorem bit_cons_of_lt {x : UInt8} {rest : Bytes} {i : Nat} (small : i < 8) :
    bit (x :: rest) i = x.toBitVec.getMsbD i := by
  simp [bit, Nat.div_eq_of_lt small, Nat.mod_eq_of_lt small]

theorem bit_cons_add {x : UInt8} {rest : Bytes} (i : Nat) : bit (x :: rest) (i + 8) = bit rest i := by
  simp [bit, Nat.add_div_right, Nat.add_mod_right]

@[simp] private theorem uint8_toBitVec_and (x y : UInt8) :
    (x &&& y).toBitVec = x.toBitVec &&& y.toBitVec := rfl

private theorem and_and_self (x m : UInt8) : x &&& m &&& m = x &&& m :=
  UInt8.eq_of_toBitVec_eq (by simp [BitVec.and_assoc, BitVec.and_self])

private theorem and_ff (x : UInt8) : x &&& 0xff = x :=
  UInt8.eq_of_toBitVec_eq (by
    rw [uint8_toBitVec_and, show (0xff : UInt8).toBitVec = BitVec.allOnes 8 from rfl,
      BitVec.and_allOnes])

/-- A byte that masks another to `0xff` is `0xff`. -/
private theorem eq_ff_of_and_eq_ff {x m : UInt8} (full : x &&& m = 0xff) : m = 0xff := by
  have below : (x &&& m).toNat ≤ m.toNat := by rw [UInt8.and_toNat]; exact Nat.and_le_right
  rw [full] at below
  exact UInt8.toNat.inj (by have := m.toNat_lt_size; simp only [UInt8.size] at this; simp at below ⊢; omega)

private theorem maskByte_getMsbD_small :
    ∀ n : Fin 9, ∀ i : Fin 8, (maskByte n).toBitVec.getMsbD i = decide (i.val < n.val) := by
  decide

theorem maskByte_getMsbD (n : Nat) {i : Nat} (small : i < 8) :
    (maskByte n).toBitVec.getMsbD i = decide (i < n) := by
  rcases Nat.lt_or_ge n 8 with short | full
  · exact maskByte_getMsbD_small ⟨n, by omega⟩ ⟨i, small⟩
  · have capped : maskByte n = maskByte 8 := by simp [maskByte, full]
    have ones : ∀ i : Fin 8, (maskByte 8).toBitVec.getMsbD i = true := by decide
    simpa [capped, show i < n by omega] using ones ⟨i, small⟩

theorem maskByte_eq_ff_iff {n : Nat} : maskByte n = 0xff ↔ 8 ≤ n := by
  rcases Nat.lt_or_ge n 8 with short | full
  · have notFull : ∀ k : Fin 8, maskByte k ≠ 0xff := by decide
    exact ⟨fun full => absurd full (notFull ⟨n, short⟩), fun full => absurd full (by omega)⟩
  · simp [maskByte, full]

/-- Masked bytes agree exactly when the bytes agree on the bits the mask selects. -/
theorem and_maskByte_eq_iff {x y : UInt8} {n : Nat} :
    x &&& maskByte n = y &&& maskByte n ↔
      ∀ i < 8, i < n → x.toBitVec.getMsbD i = y.toBitVec.getMsbD i := by
  constructor
  · intro same i small inPrefix
    have bitSame := congrArg (fun z : UInt8 => z.toBitVec.getMsbD i) same
    simpa [BitVec.getMsbD_and, maskByte_getMsbD n small, inPrefix] using bitSame
  · intro agree
    apply UInt8.eq_of_toBitVec_eq
    apply BitVec.eq_of_getMsbD_eq
    intro ⟨i, small⟩
    simp only [uint8_toBitVec_and, BitVec.getMsbD_and, maskByte_getMsbD n small]
    by_cases inPrefix : i < n
    · simp [inPrefix, agree i small inPrefix]
    · simp [inPrefix]

@[simp] theorem maskBytes_length (l n : Nat) : (maskBytes l n).length = l := by
  induction l generalizing n with
  | zero => rfl
  | succ l ih => simp [maskBytes, ih]

theorem maskBytes_getElem? {l n j : Nat} (inside : j < l) :
    (maskBytes l n)[j]? = some (maskByte (n - 8 * j)) := by
  induction l generalizing n j with
  | zero => omega
  | succ l ih =>
      cases j with
      | zero => simp [maskBytes]
      | succ j =>
          simp only [maskBytes, List.getElem?_cons_succ, ih (n := n - 8) (j := j) (by omega)]
          congr 2
          omega

/-- The comparison loop under `CIDRMask` checks agreement on the first `n` bits. -/
theorem maskedEqual_maskBytes_iff {l n : Nat} {a b : Bytes} (aLength : a.length = l)
    (bLength : b.length = l) :
    maskedEqual a (maskBytes l n) b = true ↔ ∀ i < 8 * l, i < n → bit a i = bit b i := by
  induction l generalizing n a b with
  | zero =>
      rw [List.length_eq_zero] at aLength bLength
      subst aLength bLength
      simp [maskedEqual]
  | succ l ih =>
      obtain ⟨x, a, rfl⟩ := List.exists_cons_of_length_eq_add_one aLength
      obtain ⟨y, b, rfl⟩ := List.exists_cons_of_length_eq_add_one bLength
      simp only [maskBytes, maskedEqual, Bool.and_eq_true, beq_iff_eq, and_maskByte_eq_iff,
        ih (n := n - 8) (by simpa using aLength) (by simpa using bLength)]
      constructor
      · rintro ⟨head, tail⟩ i small inPrefix
        rcases Nat.lt_or_ge i 8 with low | high
        · rw [bit_cons_of_lt low, bit_cons_of_lt low]
          exact head i low inPrefix
        · obtain ⟨j, rfl⟩ : ∃ j, i = j + 8 := ⟨i - 8, by omega⟩
          rw [bit_cons_add, bit_cons_add]
          exact tail j (by omega) (by omega)
      · intro agree
        refine ⟨fun i small inPrefix => ?_, fun j small inPrefix => ?_⟩
        · simpa [bit_cons_of_lt small] using agree i (by omega) inPrefix
        · simpa [bit_cons_add] using agree (j + 8) (by omega) (by omega)

/-- Comparing a masked network number is comparing the network number. -/
theorem maskedEqual_zipWith_and : ∀ network mask ip : Bytes,
    maskedEqual (List.zipWith (· &&& ·) network mask) mask ip = maskedEqual network mask ip
  | _ :: network, _ :: mask, _ :: ip => by
      simp [maskedEqual, and_and_self, maskedEqual_zipWith_and network mask ip]
  | [], _, _ | _ :: _, [], _ | _ :: _, _ :: _, [] => rfl

theorem to4_length {ip short : Bytes} (found : to4 ip = some short) : short.length = 4 := by
  unfold to4 at found
  split at found
  · cases found; assumption
  · split at found
    · cases found; simp [*]
    · cases found

theorem to4_of_length_four {ip : Bytes} (four : ip.length = 4) : to4 ip = some ip := by
  simp [to4, four]

theorem length_of_to4_eq_none {ip : IP} (none : to4 ip.bytes = none) : ip.bytes.length = 16 := by
  rcases ip.wellFormed with four | sixteen
  · simp [to4_of_length_four four] at none
  · exact sixteen

/-- A network number masked from an address that is not IPv4-mapped is not IPv4-mapped:
the mask keeps all of the first twelve bytes, or cuts the twelfth below `0xff`. -/
theorem to4_zipWith_and_maskBytes {c : Bytes} {n : Nat} (long : c.length = 16)
    (notMapped : to4 c = none) :
    to4 (List.zipWith (· &&& ·) c (maskBytes 16 n)) = none := by
  have notPrefix : c.take 12 ≠ v4InV6Prefix := by
    intro isPrefix
    simp [to4, long, isPrefix] at notMapped
  simp only [to4, List.length_zipWith, maskBytes_length, long, min_self]
  rw [if_neg (by decide), if_neg]
  rintro ⟨-, masked⟩
  have entry : ∀ j < 16, (List.zipWith (· &&& ·) c (maskBytes 16 n))[j]? =
      some (c.getD j 0 &&& maskByte (n - 8 * j)) := by
    intro j inside
    rw [List.getElem?_zipWith, List.getElem?_eq_getElem (by omega), maskBytes_getElem? inside,
      List.getD_eq_getElem _ _ (by omega)]
  have twelfth := congrArg (·[11]?) masked
  simp only [List.getElem?_take, show 11 < 12 by decide, if_true, entry 11 (by decide)] at twelfth
  have full : 96 ≤ n := by
    have := maskByte_eq_ff_iff.mp (eq_ff_of_and_eq_ff (Option.some.inj twelfth))
    omega
  apply notPrefix
  apply List.ext_getElem?
  intro j
  rw [← masked, List.getElem?_take, List.getElem?_take]
  split
  · rw [entry j (by omega), maskByte_eq_ff_iff.mpr (by omega), and_ff,
      List.getElem?_eq_getElem (by omega), List.getD_eq_getElem _ _ (by omega)]
  · rfl

/-! ## Containment under a `CIDRMask` -/

theorem cidrMask_of_le {ones bits : Nat} (valid : bits = 32 ∨ bits = 128) (fits : ones ≤ bits) :
    cidrMask ones bits = maskBytes (bits / 8) ones := by
  unfold cidrMask
  rw [if_neg (by omega), if_neg (by omega)]

theorem cidrMask_of_lt {ones bits : Nat} (tooLong : bits < ones) : cidrMask ones bits = [] := by
  unfold cidrMask
  split <;> simp [tooLong]

/-- `IP.Mask` of an IPv4 address under a four-byte mask masks its four-byte form. -/
theorem ipMask_of_to4 {ip short mask : Bytes} (wellFormed : ip.length = 4 ∨ ip.length = 16)
    (found : to4 ip = some short) (four : mask.length = 4) :
    ipMask ip mask = List.zipWith (· &&& ·) short mask := by
  have shortLength := to4_length found
  unfold to4 at found
  unfold ipMask
  simp only [four, show (4 : Nat) ≠ 16 by decide, false_and, if_false, true_and]
  rcases wellFormed with ipFour | ipSixteen
  · simp only [ipFour, if_true, Option.some.injEq] at found
    subst found
    simp [ipFour]
  · simp only [ipSixteen, show (16 : Nat) ≠ 4 by decide, if_false, true_and] at found
    split at found
    · cases found
      simp [*]
    · cases found

/-- `IP.Mask` of a sixteen-byte address under a sixteen-byte mask is bytewise. -/
theorem ipMask_of_sixteen {ip mask : Bytes} (sixteen : ip.length = 16) (long : mask.length = 16) :
    ipMask ip mask = List.zipWith (· &&& ·) ip mask := by
  simp [ipMask, sixteen, long]

theorem ipMask_nil {ip : Bytes} (nonempty : ip ≠ []) : ipMask ip [] = [] := by
  simp [ipMask, List.length_eq_zero, nonempty]

/-- A `nil` network contains no address. -/
theorem contains_nil (ip : IP) : IPNet.contains ⟨[], []⟩ ip.bytes = false := by
  have network : networkNumberAndMask ⟨[], []⟩ = ([], []) := rfl
  have nonempty : ((to4 ip.bytes).getD ip.bytes).length ≠ 0 := by
    cases found : to4 ip.bytes with
    | some short => simp [to4_length found]
    | none => rcases ip.wellFormed with four | sixteen <;> simp [*]
  simp [IPNet.contains, network, nonempty]

/-- An IPv4 network masked by `CIDRMask` contains exactly the addresses that agree with it
on the first `n` bits. -/
theorem contains_maskBytes_four {network ip short : Bytes} {n : Nat} (networkFour : network.length = 4)
    (found : to4 ip = some short) :
    IPNet.contains ⟨List.zipWith (· &&& ·) network (maskBytes 4 n), maskBytes 4 n⟩ ip = true ↔
      ∀ i < 32, i < n → bit network i = bit short i := by
  have maskedFour : (List.zipWith (· &&& ·) network (maskBytes 4 n)).length = 4 := by
    simp [networkFour]
  simp only [IPNet.contains, networkNumberAndMask, to4_of_length_four maskedFour, networkMask,
    maskBytes_length, if_true, maskedFour, ne_eq, not_true_eq_false, if_false, found,
    Option.getD_some, to4_length found, beq_self_eq_true, Bool.true_and, maskedEqual_zipWith_and]
  exact maskedEqual_maskBytes_iff networkFour (to4_length found)

/-- A sixteen-byte network that is not IPv4-mapped, masked by `CIDRMask`, contains exactly
the IPv6 addresses that agree with it on the first `n` bits. -/
theorem contains_maskBytes_sixteen {network ip : Bytes} {n : Nat} (networkSixteen : network.length = 16)
    (networkNotMapped : to4 network = none) (ipSixteen : ip.length = 16) (ipNotMapped : to4 ip = none) :
    IPNet.contains ⟨List.zipWith (· &&& ·) network (maskBytes 16 n), maskBytes 16 n⟩ ip = true ↔
      ∀ i < 128, i < n → bit network i = bit ip i := by
  have maskedSixteen : (List.zipWith (· &&& ·) network (maskBytes 16 n)).length = 16 := by
    simp [networkSixteen]
  simp only [IPNet.contains, networkNumberAndMask,
    to4_zipWith_and_maskBytes networkSixteen networkNotMapped, maskedSixteen, ne_eq,
    not_true_eq_false, if_false, networkMask, maskBytes_length, show (16 : Nat) ≠ 4 by decide,
    if_true, ipNotMapped, Option.getD_none, ipSixteen, beq_self_eq_true, Bool.true_and,
    maskedEqual_zipWith_and]
  exact maskedEqual_maskBytes_iff networkSixteen ipSixteen

/-! ## Parsing -/

/-- The loop of `netip.parseIPv4`: `fields` are the octets already read, `val` and
`digLen` the current one, `prev` the rune before this one. -/
def parseIPv4Fields : List Nat → Nat → Nat → Option Char → GoString → Option (List Nat)
  | fields, val, _, _, [] => if fields.length < 3 then none else some (fields ++ [val])
  | fields, val, digLen, prev, c :: rest =>
      if '0' ≤ c ∧ c ≤ '9' then
        if digLen = 1 ∧ val = 0 then none
        else
          let val := val * 10 + (c.toNat - '0'.toNat)
          if 255 < val then none else parseIPv4Fields fields val (digLen + 1) (some c) rest
      else if c = '.' then
        if prev = none ∨ rest = [] ∨ prev = some '.' then none
        else if fields.length = 3 then none
        else parseIPv4Fields (fields ++ [val]) 0 0 (some c) rest
      else none

/-- `netip.parseIPv4`: the four bytes of a dotted-decimal address. -/
def parseIPv4 (s : GoString) : Option Bytes :=
  (parseIPv4Fields [] 0 0 none s).map (·.map UInt8.ofNat)

/-- A hexadecimal digit of an IPv6 field. -/
def hexDigit? (c : Char) : Option Nat :=
  if '0' ≤ c ∧ c ≤ '9' then some (c.toNat - '0'.toNat)
  else if 'a' ≤ c ∧ c ≤ 'f' then some (c.toNat - 'a'.toNat + 10)
  else if 'A' ≤ c ∧ c ≤ 'F' then some (c.toNat - 'A'.toNat + 10)
  else none

/-- The hex-number loop of `netip.parseIPv6`: the count of digits, their value, and the rest;
`none` for a fifth digit. -/
def hexField : Nat → Nat → GoString → Option (Nat × Nat × GoString)
  | off, acc, [] => some (off, acc, [])
  | off, acc, c :: rest =>
      match hexDigit? c with
      | none => some (off, acc, c :: rest)
      | some d =>
          if 3 < off then none
          else if 65535 < acc * 16 + d then none
          else hexField (off + 1) (acc * 16 + d) rest

/-- The field loop of `netip.parseIPv6`, at most eight rounds: the bytes read, the position
of the `::`, and the unread rest. -/
def parseIPv6Fields : Nat → Bytes → Option Nat → GoString → Option (Bytes × Option Nat × GoString)
  | 0, ip, ellipsis, s => some (ip, ellipsis, s)
  | fuel + 1, ip, ellipsis, s =>
      if 16 ≤ ip.length then some (ip, ellipsis, s) else
      match hexField 0 0 s with
      | none => none
      | some (off, acc, after) =>
          if off = 0 then none
          else if after.head? = some '.' then
            if ellipsis = none ∧ ip.length ≠ 12 then none
            else if 16 < ip.length + 4 then none
            else (parseIPv4 s).map fun ip4 => (ip ++ ip4, ellipsis, [])
          else
            let ip := ip ++ [UInt8.ofNat (acc / 256), UInt8.ofNat acc]
            match after with
            | [] => some (ip, ellipsis, [])
            | [_] => none
            | c :: d :: rest =>
                if c ≠ ':' then none
                else if d = ':' then
                  if ellipsis.isSome then none
                  else if rest = [] then some (ip, some ip.length, [])
                  else parseIPv6Fields fuel ip (some ip.length) rest
                else parseIPv6Fields fuel ip ellipsis (d :: rest)

/-- `netip.parseIPv6` without a zone: a leading `::`, the fields, and the expansion of the
`::` into zero bytes. -/
def parseIPv6 (s : GoString) : Option Bytes :=
  let (ellipsis, s) := match s with
    | ':' :: ':' :: rest => (some 0, rest)
    | s => (none, s)
  if ellipsis.isSome ∧ s = [] then some (List.replicate 16 0) else
  match parseIPv6Fields 8 [] ellipsis s with
  | none => none
  | some (ip, ellipsis, rest) =>
      if rest ≠ [] then none
      else if ip.length < 16 then
        ellipsis.map fun gap => ip.take gap ++ List.replicate (16 - ip.length) 0 ++ ip.drop gap
      else if ellipsis.isSome then none
      else some ip

/-- The first of `.`, `:` and `%` in an address, which picks the parser of `netip.ParseAddr`. -/
def addrSeparator : GoString → Option Char
  | [] => none
  | c :: rest => if c = '.' ∨ c = ':' ∨ c = '%' then some c else addrSeparator rest

/-- `net.ParseIP`: the sixteen-byte form of an address, or `none` for Go's `nil`. An IPv6
address with a zone is refused, as `ParseIP` refuses every zone. -/
def parseIP (s : GoString) : Option IP :=
  match addrSeparator s with
  | some '.' => (parseIPv4 s).bind fun ip4 => IP.ofBytes? (v4InV6Prefix ++ ip4)
  | some ':' => if '%' ∈ s then none else (parseIPv6 s).bind IP.ofBytes?
  | _ => none

example : (parseIP "10.0.0.1".toList).map IP.bytes = some (v4InV6Prefix ++ [10, 0, 0, 1]) := by
  decide
example : (parseIP "fe80::1".toList).map IP.bytes =
    some [0xfe, 0x80, 0, 0, 0, 0, 0, 0, 0, 0, 0, 0, 0, 0, 0, 1] := by decide
example : parseIP "1.2.3.04".toList = none := by decide

end TrojanGo.Net
