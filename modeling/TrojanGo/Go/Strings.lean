import Mathlib.Data.List.Infix
import Mathlib.Algebra.Order.Ring.Nat

/-!
# Go strings

Go's `string` as the sequence of its runes, with the parts of `strings` and `strconv` that
the router and the option handlers call. The Go functions count bytes where these count
runes; every test the router makes on an offset (that it is zero, that the byte before it is
`.`) has the same answer on both, since UTF-8 is self-synchronizing and `.` is ASCII.
-/

set_option autoImplicit false

namespace TrojanGo

/-- Go's `string`, as its runes. -/
abbrev GoString := List Char

namespace Strings

/-- `strings.HasPrefix`. -/
def hasPrefix (s pre : GoString) : Bool := pre.isPrefixOf s

/-- `strings.HasSuffix`. -/
def hasSuffix (s suffix : GoString) : Bool := suffix.isSuffixOf s

/-- The offset of the first occurrence of `substr` in `s`, scanning from the left. -/
def indexFrom (substr : GoString) : GoString → Option Nat
  | [] => if substr.isPrefixOf [] then some 0 else none
  | c :: rest => if substr.isPrefixOf (c :: rest) then some 0 else (indexFrom substr rest).map (· + 1)

/-- `strings.Index`: the first offset of `substr` in `s`, or `-1`. -/
def index (s substr : GoString) : Int :=
  match indexFrom substr s with
  | some offset => offset
  | none => -1

/-- `strings.Contains`, which Go defines as `Index(s, substr) >= 0`. -/
def contains (s substr : GoString) : Bool := decide (0 ≤ index s substr)

/-- `strings.ToLower` on valid UTF-8: ASCII letters by the ASCII table, every other rune by
`unicode.ToLower`, which the caller supplies (`unicodeLower`). -/
def toLower (unicodeLower : Char → Char) (s : GoString) : GoString :=
  s.map fun c => if c.toNat < 128 then c.toLower else unicodeLower c

/-- `strings.Split` with a one-rune separator. -/
def split (s : GoString) (sep : Char) : List GoString := s.splitOn sep

/-- No part of `strings.Split(s, sep)` holds the separator. -/
theorem not_mem_of_mem_split {s part : GoString} {sep : Char} (member : part ∈ split s sep) : sep ∉ part := by
  unfold split List.splitOn at member
  induction s generalizing part with
  | nil =>
      rw [List.splitOnP_nil, List.mem_singleton] at member
      simp [member]
  | cons c rest ih =>
      rw [List.splitOnP_cons] at member
      split_ifs at member with atSep
      · rcases List.mem_cons.mp member with rfl | later
        · exact List.not_mem_nil sep
        · exact ih later
      · obtain ⟨first, parts, split⟩ := List.exists_cons_of_ne_nil (List.splitOnP_ne_nil (· == sep) rest)
        rw [split] at member ih
        rcases List.mem_cons.mp member with rfl | later
        · rw [List.mem_cons, not_or]
          exact ⟨fun same => atSep (by simp [same]), ih (List.mem_cons_self _ _)⟩
        · exact ih (List.mem_cons_of_mem _ later)

/-- A string that splits at `sep` into two parts is the first, the separator, and the second. -/
theorem eq_of_split_eq_pair {s first second : GoString} {sep : Char} (parts : split s sep = [first, second]) :
    s = first ++ sep :: second := by
  have joined : [sep].intercalate (split s sep) = s := List.intercalate_splitOn s sep
  rw [parts] at joined
  simpa [List.intercalate] using joined.symm

/-- `strings.Split(s, sep)` gives two parts exactly when `sep` occurs once in `s`, between them. -/
theorem split_eq_pair_iff {s first second : GoString} {sep : Char} :
    split s sep = [first, second] ↔ s = first ++ sep :: second ∧ sep ∉ first ∧ sep ∉ second := by
  constructor
  · intro parts
    exact ⟨eq_of_split_eq_pair parts, not_mem_of_mem_split (parts ▸ List.mem_cons_self _ _),
      not_mem_of_mem_split (parts ▸ List.mem_cons_of_mem _ (List.mem_singleton_self _))⟩
  · rintro ⟨rfl, absentFirst, absentSecond⟩
    have split := List.splitOn_intercalate [first, second] sep (by simp [absentFirst, absentSecond])
      (List.cons_ne_nil _ _)
    simpa [List.intercalate] using split

theorem hasSuffix_iff {s suffix : GoString} : hasSuffix s suffix = true ↔ suffix <:+ s :=
  List.isSuffixOf_iff_suffix

theorem hasPrefix_iff {s pre : GoString} : hasPrefix s pre = true ↔ pre <+: s :=
  List.isPrefixOf_iff_prefix

/-- `strings.Index` of a one-rune string is the offset of its first occurrence. -/
theorem index_singleton_append {c : Char} {pre rest : GoString} (absent : c ∉ pre) :
    index (pre ++ c :: rest) [c] = pre.length := by
  suffices found : indexFrom [c] (pre ++ c :: rest) = some pre.length by simp [index, found]
  induction pre with
  | nil => simp [indexFrom]
  | cons d pre ih =>
      rw [List.mem_cons, not_or] at absent
      simp [indexFrom, absent.1, ih absent.2]

theorem index_singleton_of_not_mem {c : Char} {s : GoString} (absent : c ∉ s) : index s [c] = -1 := by
  suffices missing : indexFrom [c] s = none by simp [index, missing]
  induction s with
  | nil => rfl
  | cons d s ih =>
      rw [List.mem_cons, not_or] at absent
      simp [indexFrom, absent.1, ih absent.2]

/-! ## `strconv.ParseInt` -/

/-- The error kinds of `strconv.ParseInt`. -/
inductive NumError
  | errSyntax
  | errRange
  deriving DecidableEq, Repr

/-- The largest `uint32`, the bound of `strconv.ParseUint(s, 10, 32)`. -/
def maxUint32 : Nat := 4294967295

/-- The digit loop of `strconv.ParseUint(s, 10, 32)`, with `n` the value read so far. It
stops at the first overflow, before looking at the runes after it. -/
def parseUintDigits (n : Nat) : GoString → Except NumError Nat
  | [] => .ok n
  | c :: rest =>
      if '0' ≤ c ∧ c ≤ '9' then
        let next := n * 10 + (c.toNat - '0'.toNat)
        if maxUint32 < next then .error .errRange else parseUintDigits next rest
      else .error .errSyntax

/-- `strconv.ParseUint(s, 10, 32)`. -/
def parseUint32 : GoString → Except NumError Nat
  | [] => .error .errSyntax
  | s => parseUintDigits 0 s

/-- `strconv.ParseInt(s, 10, 32)`: a sign, then `ParseUint`, then the `int32` range check,
which a range error of `ParseUint` also reaches (with the value `maxUint32`). -/
def parseInt32 : GoString → Except NumError Int
  | [] => .error .errSyntax
  | c :: rest =>
      let (neg, digits) :=
        if c = '+' then (false, rest) else if c = '-' then (true, rest) else (false, c :: rest)
      let checked (un : Nat) : Except NumError Int :=
        if !neg ∧ 2 ^ 31 ≤ un then .error .errRange
        else if neg ∧ 2 ^ 31 < un then .error .errRange
        else .ok (if neg then -(un : Int) else un)
      match parseUint32 digits with
      | .ok un => checked un
      | .error .errRange => checked maxUint32
      | .error .errSyntax => .error .errSyntax

/-- `strconv.ParseBool`. -/
def parseBool (str : GoString) : Except NumError Bool :=
  if str ∈ ["1", "t", "T", "true", "TRUE", "True"].map String.toList then .ok true
  else if str ∈ ["0", "f", "F", "false", "FALSE", "False"].map String.toList then .ok false
  else .error .errSyntax

/-- Go's conversion `uint32(n)` of an integer: the low 32 bits. -/
def uint32OfInt (n : Int) : UInt32 := UInt32.ofNat (n % 4294967296).toNat

example : parseInt32 "-1".toList = .ok (-1) := rfl
example : parseInt32 "2147483648".toList = .error .errRange := rfl
example : uint32OfInt (-1) = 4294967295 := by decide

end Strings

/-! ## `fmt.Sprint` and `fmt.Sprintln` -/

namespace Fmt

/-- An operand of the `fmt` print functions: whether its dynamic type is of kind
`reflect.String`, and the text the verb `%v` prints for it. -/
structure Operand where
  isString : Bool
  text : GoString
  deriving DecidableEq, Repr

/-- A `string` operand, which prints as itself. -/
def Operand.string (s : GoString) : Operand := ⟨true, s⟩

/-- The loop of `doPrint` after an operand whose kind was `prevString`: a space goes before an
operand when neither it nor the one before it is a string. -/
def printAfter (prevString : Bool) : List Operand → GoString
  | [] => []
  | arg :: args => (if !arg.isString && !prevString then [' '] else []) ++ arg.text ++ printAfter arg.isString args

/-- `fmt.Sprint`: "spaces are added between operands when neither is a string". -/
def sprint : List Operand → GoString
  | [] => []
  | arg :: args => arg.text ++ printAfter arg.isString args

/-- `fmt.Sprintln`: "spaces are always added between operands and a newline is appended". -/
def sprintln (args : List Operand) : GoString := [' '].intercalate (args.map Operand.text) ++ ['\n']

example : sprint [.string "a".toList, .string "b".toList] = "ab".toList ∧
    sprintln [.string "a".toList, .string "b".toList] = "a b\n".toList := ⟨rfl, rfl⟩

end Fmt

end TrojanGo
