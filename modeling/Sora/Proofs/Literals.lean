import Mathlib.Data.Nat.Digits
import Sora.ManageSieve.Commands
import Sora.Proofs.SessionDefects

/-
Module: Sora.Proofs.Literals
Purpose: What `fmt.Sprintf("%d", n)` writes and how the code reads it back. The decimal form of
  a natural number is a run of ASCII digits whose value is the number, so `fmt.Sscanf` with `%d`
  reads it back whenever it fits an `int64`. For `PUTSCRIPT` this closes the framing of a
  literal: announcing `{n+}` with `n` the script's length in decimal, and sending that many
  bytes, stores exactly the script and leaves every byte after it to the next command.
Trusted boundary: `Sora.ManageSieve.Commands`; Lean's `Nat.repr` for the decimal digits Go
  writes.
Main exports: decimal_natCast, decimal_negSucc, sscanInt_decimal,
  putScript_literal_round_trip
-/

namespace Sora.ManageSieve

open Sora.Db (Bytes)

/-! ### The digits of `%d` -/

/-- A decimal digit is one ASCII byte between `0` and `9`, whose value is the digit. -/
theorem utf8EncodeChar_digitChar :
    ∀ d : Nat, d < 10 → ∃ b : UInt8, String.utf8EncodeChar (Nat.digitChar d) = [b] ∧
      0x30 ≤ b ∧ b ≤ 0x39 ∧ b.toNat - 0x30 = d
  | 0, _ | 1, _ | 2, _ | 3, _ | 4, _ | 5, _ | 6, _ | 7, _ | 8, _ | 9, _ =>
    ⟨_, rfl, by decide, by decide, rfl⟩
  | _ + 10, h => absurd h (by omega)

theorem digitsValue_append_singleton (digits : Bytes) (b : UInt8) :
    digitsValue (digits ++ [b]) = 10 * digitsValue digits + (b.toNat - 0x30) := by
  simp [digitsValue]

/-- `Nat.toDigitsCore` with enough fuel puts the digits of `n` in front of what it was given. -/
theorem toDigitsCore_bytes (fuel n : Nat) (ds : List Char) (enough : n < fuel) :
    ∃ digits, (Nat.toDigitsCore 10 fuel n ds).flatMap String.utf8EncodeChar =
        digits ++ ds.flatMap String.utf8EncodeChar ∧ digits ≠ [] ∧
      (∀ d ∈ digits, 0x30 ≤ d ∧ d ≤ 0x39) ∧ digitsValue digits = n := by
  induction fuel generalizing n ds with
  | zero => omega
  | succ fuel ih =>
    obtain ⟨b, encoded, lo, hi, value⟩ :=
      utf8EncodeChar_digitChar (n % 10) (Nat.mod_lt n (by decide))
    rw [Nat.toDigitsCore]
    split
    · refine ⟨[b], by simp [encoded], by simp, by simpa using ⟨lo, hi⟩, ?_⟩
      simp only [digitsValue, List.foldl_cons, List.foldl_nil, value]
      omega
    · obtain ⟨digits, bytes, nonempty, isDigit, higher⟩ :=
        ih (n / 10) (Nat.digitChar (n % 10) :: ds) (by omega)
      refine ⟨digits ++ [b], by simp [bytes, encoded], by simp, ?_, ?_⟩
      · simp only [List.mem_append, List.mem_singleton]
        rintro d (mem | rfl)
        exacts [isDigit d mem, ⟨lo, hi⟩]
      · rw [digitsValue_append_singleton, higher, value]
        omega

/-- `fmt.Sprintf("%d", n)` of a natural number is a run of decimal digits whose value is `n`. -/
theorem decimal_natCast (n : Nat) :
    decimal n ≠ [] ∧ (∀ d ∈ decimal n, 0x30 ≤ d ∧ d ≤ 0x39) ∧ digitsValue (decimal n) = n := by
  obtain ⟨digits, bytes, nonempty, isDigit, value⟩ := toDigitsCore_bytes (n + 1) n [] (by omega)
  obtain rfl : decimal n = digits := by
    simpa [decimal, utf8, String.toUTF8, Nat.repr, Nat.toDigits] using bytes
  exact ⟨nonempty, isDigit, value⟩

/-- A negative number is written as `-` and the digits of its absolute value. -/
theorem decimal_negSucc (m : Nat) :
    decimal (Int.negSucc m) = 0x2D :: decimal (Int.ofNat (m + 1)) :=
  rfl

/-- `fmt.Sscanf(s, "%d", &n)` reads back what `fmt.Sprintf("%d", n)` wrote, for every natural
number that fits an `int64`. -/
theorem sscanInt_decimal (n : Nat) (fits : n < 2 ^ 63) :
    sscanInt (decimal n) = some (n : Int) := by
  obtain ⟨nonempty, isDigit, value⟩ := decimal_natCast n
  rw [sscanInt_digits nonempty isDigit (by rw [value]; exact fits), value]

/-! ### The `PUTSCRIPT` literal -/

/-- A `PUTSCRIPT` whose script argument announces `{n+}`, with `n` the length of the script in
decimal, followed on the connection by the script and anything else: after the continuation `+`
the handler stores exactly the script, and the next command is read from the bytes after it. -/
theorem putScript_literal_round_trip (o : Oracle) (cfg : ServerConfig) (n : Nat)
    (name script rest : Bytes) (s : Session) (w : World) (fits : script.length < 2 ^ 63)
    (allocatable : script.length ≤ o.maxAlloc) :
    handlePutScriptCommand o cfg n name (utf8 "\x7b" ++ decimal script.length ++ utf8 "+\x7d")
        { s with reader := script ++ rest } w =
      handlePutScript o cfg n name script { s with reader := rest } (w.send (utf8 "+\r\n")) := by
  have framed : ((utf8 "\x7b").isPrefixOf (utf8 "\x7b" ++ decimal script.length ++ utf8 "+\x7d") &&
      (utf8 "+\x7d").isSuffixOf (utf8 "\x7b" ++ decimal script.length ++ utf8 "+\x7d")) = true := by
    simp only [Bool.and_eq_true, List.isPrefixOf_iff_prefix, List.isSuffixOf_iff_suffix]
    exact ⟨List.append_assoc _ (decimal _) _ ▸ List.prefix_append _ _, List.suffix_append _ _⟩
  have announced : sscanInt (trimSuffix (trimPrefix (utf8 "\x7b" ++ decimal script.length ++
      utf8 "+\x7d") (utf8 "\x7b")) (utf8 "+\x7d")) = some (script.length : Int) := by
    rw [List.append_assoc, trimPrefix_append, trimSuffix_append]
    exact sscanInt_decimal script.length fits
  unfold handlePutScriptCommand
  rw [if_pos framed, announced]
  dsimp only
  rw [if_neg (by omega), Int.toNat_ofNat, if_neg (by omega), readFull,
    if_pos (by simp), List.take_left, List.drop_left]

/-- `PUTSCRIPT s {5+}` followed by `keep;` and the next command `NOOP`. -/
theorem keep_literal_read_back :
    (utf8 "keep;").length < 2 ^ 63 ∧ (utf8 "keep;").length ≤ exampleOracle.maxAlloc ∧
      handlePutScriptCommand exampleOracle exampleConfig 0 (utf8 "s")
          (utf8 "\x7b" ++ decimal (utf8 "keep;").length ++ utf8 "+\x7d")
          { Session.start [] [] with reader := utf8 "keep;" ++ utf8 "NOOP\r\n" } exampleWorld =
        handlePutScript exampleOracle exampleConfig 0 (utf8 "s") (utf8 "keep;")
          { Session.start [] [] with reader := utf8 "NOOP\r\n" }
          (exampleWorld.send (utf8 "+\r\n")) :=
  have fits : (utf8 "keep;").length < 2 ^ 63 := by decide
  have allocatable : (utf8 "keep;").length ≤ exampleOracle.maxAlloc := by decide
  ⟨fits, allocatable, putScript_literal_round_trip _ _ _ _ _ _ _ _ fits allocatable⟩

end Sora.ManageSieve
