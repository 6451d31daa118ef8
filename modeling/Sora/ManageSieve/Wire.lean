import Sora.Db.Schema

/-
Module: Sora.ManageSieve.Wire
Purpose: The Go library functions the ManageSieve session, and the admin API's middleware, apply
  to the bytes they read: `bufio.Reader.ReadString('\n')`, `io.ReadFull`, `strings.TrimSpace`,
  `strings.SplitN`, `strings.Split`, `strings.Trim` with a one-byte cut set,
  `strings.HasPrefix`/`HasSuffix` and `TrimPrefix`/`TrimSuffix`, `strings.ToUpper` and
  `ToLower`, `fmt.Sscanf` with `%d`, and `base64.StdEncoding.DecodeString`.
Trusted boundary: `strings.ToUpper` and `ToLower` of text that is not ASCII go through Go's
  Unicode case tables, which enter as the parameters `unicodeUpper` and `unicodeLower`; the
  white-space set of `unicode.IsSpace` (also that of `fmt`'s scanner) is written out below.
Main exports: utf8, readString, readFull, spaceRuneLength, trimSpace, splitN, split, trimByte,
  toUpper, toLower, sscanInt, decodeBase64
-/

namespace Sora.ManageSieve

open Sora.Db (Bytes)

/-- The UTF-8 bytes of a Go string literal. -/
def utf8 (s : String) : Bytes :=
  s.toUTF8.data.toList

/-- `fmt.Sprintf("%d", n)`. -/
def decimal (n : Int) : Bytes :=
  utf8 (toString n)

/-! ### Reading -/

/-- `bufio.Reader.ReadString('\n')`: the bytes up to and including the first LF, and what
remains; `none` when the input ends first, which the session handles as the error it is. -/
def readString (input : Bytes) : Option (Bytes × Bytes) :=
  match input.span (· != 10) with
  | (line, lf :: rest) => some (line ++ [lf], rest)
  | (_, []) => none

/-- `io.ReadFull` into a buffer of `n` bytes: the bytes, when that many remain, and what the
reader holds afterwards (nothing, when it ran dry). -/
def readFull (input : Bytes) (n : Nat) : Option Bytes × Bytes :=
  if n ≤ input.length then (some (input.take n), input.drop n) else (none, [])

/-! ### White space -/

/-- The length of the encoding of a rune `unicode.IsSpace` accepts that the bytes start with,
or 0: `\t \n \v \f \r`, space, U+0085, U+00A0, U+1680, U+2000-U+200A, U+2028, U+2029, U+202F,
U+205F and U+3000. -/
def spaceRuneLength : Bytes → Nat
  | [] => 0
  | b :: rest =>
    if (9 ≤ b ∧ b ≤ 13) ∨ b = 32 then 1
    else match rest with
      | c :: rest =>
        if b = 0xC2 then (if c = 0x85 ∨ c = 0xA0 then 2 else 0)
        else match rest with
          | d :: _ =>
            if b = 0xE1 ∧ c = 0x9A ∧ d = 0x80 then 3
            else if b = 0xE2 ∧ c = 0x80 ∧
                ((0x80 ≤ d ∧ d ≤ 0x8A) ∨ d = 0xA8 ∨ d = 0xA9 ∨ d = 0xAF) then 3
            else if b = 0xE2 ∧ c = 0x81 ∧ d = 0x9F then 3
            else if b = 0xE3 ∧ c = 0x80 ∧ d = 0x80 then 3
            else 0
          | [] => 0
      | [] => 0

/-- As `spaceRuneLength`, for the bytes read backwards: the rune the bytes end with. -/
def spaceRuneLengthBack : Bytes → Nat
  | [] => 0
  | b :: rest =>
    if (9 ≤ b ∧ b ≤ 13) ∨ b = 32 then 1
    else match rest with
      | c :: rest =>
        if c = 0xC2 ∧ (b = 0x85 ∨ b = 0xA0) then 2
        else match rest with
          | d :: _ =>
            if d = 0xE1 ∧ c = 0x9A ∧ b = 0x80 then 3
            else if d = 0xE2 ∧ c = 0x80 ∧
                ((0x80 ≤ b ∧ b ≤ 0x8A) ∨ b = 0xA8 ∨ b = 0xA9 ∨ b = 0xAF) then 3
            else if d = 0xE2 ∧ c = 0x81 ∧ b = 0x9F then 3
            else if d = 0xE3 ∧ c = 0x80 ∧ b = 0x80 then 3
            else 0
          | [] => 0
      | [] => 0

/-- Drop the runes `width` recognises from the front; each step drops at least one byte, so the
length of the bytes is enough fuel. -/
def dropRunes (width : Bytes → Nat) : Nat → Bytes → Bytes
  | 0, bytes => bytes
  | fuel + 1, bytes =>
    match width bytes with
    | 0 => bytes
    | n + 1 => dropRunes width fuel (bytes.drop (n + 1))

/-- `strings.TrimSpace`. -/
def trimSpace (s : Bytes) : Bytes :=
  let front := dropRunes spaceRuneLength s.length s
  (dropRunes spaceRuneLengthBack front.length front.reverse).reverse

/-! ### Splitting and trimming -/

/-- `strings.SplitN(s, sep, n)` for a one-byte separator: at most `n` fields, the last one
holding the rest. -/
def splitN (s : Bytes) (sep : UInt8) (n : Nat) : List Bytes :=
  go s (min n (s.length + 1))
where
  go (s : Bytes) : Nat → List Bytes
    | 0 => []
    | 1 => [s]
    | k + 2 =>
      match s.span (· != sep) with
      | (field, _ :: rest) => field :: go rest (k + 1)
      | (_, []) => [s]

/-- `strings.Split(s, sep)` for a one-byte separator. -/
def split (s : Bytes) (sep : UInt8) : List Bytes :=
  s.foldr (fun b fields =>
    if b = sep then [] :: fields
    else match fields with
      | field :: rest => (b :: field) :: rest
      | [] => [[b]]) [[]]

/-- A string with no separator splits into itself. -/
theorem split_of_not_mem {s : Bytes} {sep : UInt8} (h : sep ∉ s) : split s sep = [s] := by
  induction s with
  | nil => rfl
  | cons b rest ih =>
    simp only [List.mem_cons, not_or] at h
    simp only [split, List.foldr_cons] at ih ⊢
    rw [ih h.2, if_neg (Ne.symm h.1)]

/-- `strings.Trim(s, cut)` for a cut set of one ASCII byte. -/
def trimByte (s : Bytes) (cut : UInt8) : Bytes :=
  ((s.dropWhile (· == cut)).reverse.dropWhile (· == cut)).reverse

/-- `strings.TrimPrefix`. -/
def trimPrefix (s pre : Bytes) : Bytes :=
  if pre.isPrefixOf s then s.drop pre.length else s

/-- `strings.TrimSuffix`. -/
def trimSuffix (s suf : Bytes) : Bytes :=
  if suf.isSuffixOf s then s.take (s.length - suf.length) else s

theorem trimPrefix_append (pre rest : Bytes) : trimPrefix (pre ++ rest) pre = rest := by
  simp [trimPrefix, List.isPrefixOf_iff_prefix.mpr (List.prefix_append pre rest)]

theorem trimSuffix_append (s suf : Bytes) : trimSuffix (s ++ suf) suf = s := by
  simp [trimSuffix, List.isSuffixOf_iff_suffix.mpr (List.suffix_append s suf)]

/-- `strings.ToUpper`: ASCII text is upper-cased byte by byte, other text by Go's tables. -/
def toUpper (unicodeUpper : Bytes → Bytes) (s : Bytes) : Bytes :=
  if s.all (· < 0x80) then s.map fun c => if 0x61 ≤ c ∧ c ≤ 0x7A then c - 0x20 else c
  else unicodeUpper s

theorem toUpper_of_ascii {unicodeUpper : Bytes → Bytes} {s : Bytes} (h : s.all (· < 0x80) = true) :
    toUpper unicodeUpper s = s.map fun c => if 0x61 ≤ c ∧ c ≤ 0x7A then c - 0x20 else c :=
  if_pos h

/-- `strings.ToLower`: ASCII text is lower-cased byte by byte, other text by Go's tables. -/
def toLower (unicodeLower : Bytes → Bytes) (s : Bytes) : Bytes :=
  if s.all (· < 0x80) then s.map fun c => if 0x41 ≤ c ∧ c ≤ 0x5A then c + 0x20 else c
  else unicodeLower s

/-! ### `fmt.Sscanf(s, "%d", &n)` -/

/-- `ss.SkipSpace` of `fmt`'s scanner: white space is skipped, a newline is an error. -/
def skipScanSpace : Nat → Bytes → Option Bytes
  | 0, bytes => some bytes
  | fuel + 1, bytes =>
    if bytes.head? = some 10 then none
    else match spaceRuneLength bytes with
      | 0 => some bytes
      | n + 1 => skipScanSpace fuel (bytes.drop (n + 1))

/-- The value of a run of ASCII digits. -/
def digitsValue (digits : Bytes) : Nat :=
  digits.foldl (fun acc d => 10 * acc + (d.toNat - 0x30)) 0

/-- `fmt.Sscanf(s, "%d", &n)` into an `int`: white space, an optional sign, at least one
decimal digit, a value in the range of `int64`; the bytes after the digits are not read. -/
def sscanInt (s : Bytes) : Option Int := do
  let rest ← skipScanSpace s.length s
  let (negative, rest) := match rest with
    | 0x2D :: rest => (true, rest)
    | 0x2B :: rest => (false, rest)
    | rest => (false, rest)
  let digits := rest.takeWhile fun c => 0x30 ≤ c ∧ c ≤ 0x39
  if digits.isEmpty then none
  else
    let value : Int := if negative then -(digitsValue digits : Int) else digitsValue digits
    if -2 ^ 63 ≤ value ∧ value < 2 ^ 63 then some value else none

/-- A decimal digit starts no white-space rune. -/
theorem spaceRuneLength_of_digit {b : UInt8} (rest : Bytes) (lo : 0x30 ≤ b) (hi : b ≤ 0x39) :
    spaceRuneLength (b :: rest) = 0 := by
  simp only [UInt8.le_def, BitVec.le_def, UInt8.toBitVec_ofNat, BitVec.toNat_ofNat] at lo hi
  have ne : ∀ c : UInt8, c.toBitVec.toNat < 0x30 ∨ 0x39 < c.toBitVec.toNat → b ≠ c := by
    rintro c out rfl; omega
  simp only [spaceRuneLength]
  rw [if_neg]
  · split
    · rw [if_neg (ne _ (by decide))]
      split
      · rw [if_neg fun h => ne _ (by decide) h.1, if_neg fun h => ne _ (by decide) h.1,
          if_neg fun h => ne _ (by decide) h.1, if_neg fun h => ne _ (by decide) h.1]
      · rfl
    · rfl
  · simp only [UInt8.le_def, BitVec.le_def, UInt8.toBitVec_ofNat, BitVec.toNat_ofNat]
    rintro (⟨-, h⟩ | rfl)
    · omega
    · exact absurd lo (by decide)

/-- `Sscanf` reads a run of decimal digits, with no sign and no space before it, as its value
when that fits an `int64`. -/
theorem sscanInt_digits {digits : Bytes} (nonempty : digits ≠ [])
    (decimal : ∀ d ∈ digits, 0x30 ≤ d ∧ d ≤ 0x39) (fits : digitsValue digits < 2 ^ 63) :
    sscanInt digits = some (digitsValue digits : Int) := by
  obtain ⟨b, rest, rfl⟩ := List.exists_cons_of_ne_nil nonempty
  obtain ⟨lo, hi⟩ := decimal b (.head _)
  have skipped : skipScanSpace (b :: rest).length (b :: rest) = some (b :: rest) := by
    simp only [List.length_cons, skipScanSpace, List.head?_cons, spaceRuneLength_of_digit rest lo hi]
    rw [if_neg]
    rintro ⟨⟩
    exact absurd lo (by decide)
  have sign : sscanInt.match_1 (fun _ => Bool × Bytes) (b :: rest) (fun rest => (true, rest))
      (fun rest => (false, rest)) (fun rest => (false, rest)) = (false, b :: rest) := by
    split
    · rename_i h; exact absurd (List.cons.inj h).1 (by rintro rfl; exact absurd lo (by decide))
    · rename_i h; exact absurd (List.cons.inj h).1 (by rintro rfl; exact absurd lo (by decide))
    · rfl
  have whole : (b :: rest).takeWhile (fun c => decide (0x30 ≤ c ∧ c ≤ 0x39)) = b :: rest :=
    List.takeWhile_eq_self_iff.mpr fun d member => by simpa using decimal d member
  unfold sscanInt
  rw [skipped]
  dsimp only [bind, Option.bind]
  rw [sign]
  simp only [whole, List.isEmpty_cons, Bool.false_eq_true, ↓reduceIte]
  rw [if_pos ⟨by omega, by exact_mod_cast fits⟩]

/-! ### `base64.StdEncoding.DecodeString` -/

/-- The value of a character of the standard alphabet `A-Z a-z 0-9 + /`. -/
def base64Value (c : UInt8) : Option Nat :=
  if 0x41 ≤ c ∧ c ≤ 0x5A then some (c.toNat - 0x41)
  else if 0x61 ≤ c ∧ c ≤ 0x7A then some (c.toNat - 0x61 + 26)
  else if 0x30 ≤ c ∧ c ≤ 0x39 then some (c.toNat - 0x30 + 52)
  else if c = 0x2B then some 62
  else if c = 0x2F then some 63
  else none

/-- The first `count` bytes of the 24 bits that four sextets hold. -/
def quantumBytes (a b c d : Nat) (count : Nat) : Bytes :=
  let bits := a * 2 ^ 18 + b * 2 ^ 12 + c * 2 ^ 6 + d
  ([bits / 2 ^ 16, bits / 2 ^ 8 % 2 ^ 8, bits % 2 ^ 8].map Nat.toUInt8).take count

/-- Groups of four characters, the last of which may be padded as `xx==` or `xxx=`; bits left
over by the padding are not checked. -/
def decodeQuanta : Bytes → Option Bytes
  | [] => some []
  | a :: b :: c :: d :: rest => do
    let a ← base64Value a
    let b ← base64Value b
    if c = 0x3D then
      if d = 0x3D ∧ rest = [] then some (quantumBytes a b 0 0 1) else none
    else
      let c ← base64Value c
      if d = 0x3D then
        if rest = [] then some (quantumBytes a b c 0 2) else none
      else
        let d ← base64Value d
        let more ← decodeQuanta rest
        some (quantumBytes a b c d 3 ++ more)
  | _ => none

/-- `base64.StdEncoding.DecodeString`: CR and LF are ignored wherever they stand. -/
def decodeBase64 (s : Bytes) : Option Bytes :=
  decodeQuanta (s.filter fun c => c != 13 && c != 10)

end Sora.ManageSieve
