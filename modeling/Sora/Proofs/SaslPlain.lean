import Sora.Proofs.SessionDefects

/-
Module: Sora.Proofs.SaslPlain
Purpose: The framing of `AUTHENTICATE PLAIN` read back. A client sends the SASL PLAIN message
  `authzid NUL authcid NUL password` in the standard base64 encoding; `handleAuthenticate`
  decodes it with `base64.StdEncoding.DecodeString` and splits it on NUL with `strings.Split`.
  For every three fields without a NUL byte, decoding gives back the message and splitting gives
  back the three fields, in their places, so the handler authenticates exactly the identities and
  password the client encoded. The response may also come on a line of its own after the empty
  continuation `""`: `strings.TrimSpace` of that line is the response, and the handler goes on
  as with the response on the command line.
Trusted boundary: `Sora.ManageSieve.Commands`. `encodeBase64` is the client's side,
  `base64.StdEncoding.EncodeToString` as RFC 4648 defines it; it is not code of this repository.
Main exports: base64Char, encodeBase64, decodeBase64_encodeBase64, split_plainMessage,
  authenticate_plain_round_trip, trimSpace_crlf, readString_crlf, authenticate_plain_on_next_line
-/

namespace Sora.ManageSieve

open Sora.Db (Bytes)

/-! ### The client's encoding -/

/-- The character of a sextet in the standard alphabet: `A`-`Z`, `a`-`z`, `0`-`9`, `+`, `/`. -/
def base64Char (v : Nat) : UInt8 :=
  if v < 26 then (0x41 + v).toUInt8
  else if v < 52 then (0x61 + (v - 26)).toUInt8
  else if v < 62 then (0x30 + (v - 52)).toUInt8
  else if v = 62 then 0x2B
  else 0x2F

/-- `base64.StdEncoding.EncodeToString`: three bytes to four characters, and a last group of
one or two bytes padded with `=`. -/
def encodeBase64 : Bytes → Bytes
  | x :: y :: z :: rest =>
    base64Char (x.toNat / 4) :: base64Char (x.toNat % 4 * 16 + y.toNat / 16) ::
      base64Char (y.toNat % 16 * 4 + z.toNat / 64) :: base64Char (z.toNat % 64) ::
        encodeBase64 rest
  | [x, y] =>
    [base64Char (x.toNat / 4), base64Char (x.toNat % 4 * 16 + y.toNat / 16),
      base64Char (y.toNat % 16 * 4), 0x3D]
  | [x] => [base64Char (x.toNat / 4), base64Char (x.toNat % 4 * 16), 0x3D, 0x3D]
  | [] => []

/-- The SASL PLAIN message of RFC 4616. -/
def plainMessage (authzId authnId password : Bytes) : Bytes :=
  authzId ++ 0 :: (authnId ++ 0 :: password)

/-! ### The alphabet -/

/-- Each of the 64 characters decodes to its sextet, and none is `=`, CR or LF. -/
theorem base64Char_sextet :
    ∀ v : Fin 64, base64Value (base64Char v) = some v.val ∧ base64Char v ≠ 0x3D ∧
      base64Char v ≠ 13 ∧ base64Char v ≠ 10 := by
  decide

theorem base64Value_base64Char {v : Nat} (h : v < 64) : base64Value (base64Char v) = some v :=
  (base64Char_sextet ⟨v, h⟩).1

theorem base64Char_ne_pad {v : Nat} (h : v < 64) : base64Char v ≠ 0x3D :=
  (base64Char_sextet ⟨v, h⟩).2.1

/-! ### Decoding what was encoded -/

theorem toUInt8_toNat (x : UInt8) : x.toNat.toUInt8 = x :=
  UInt8.eq_of_toBitVec_eq (BitVec.eq_of_toNat_eq (UInt8.toNat_ofNat_of_lt x.toNat_lt_size))

/-- The 24 bits of three bytes, cut into sextets and put together again. -/
theorem quantumBytes_three (x y z : UInt8) :
    quantumBytes (x.toNat / 4) (x.toNat % 4 * 16 + y.toNat / 16)
      (y.toNat % 16 * 4 + z.toNat / 64) (z.toNat % 64) 3 = [x, y, z] := by
  have hx : x.toNat < 256 := x.toNat_lt_size
  have hy : y.toNat < 256 := y.toNat_lt_size
  have hz : z.toNat < 256 := z.toNat_lt_size
  have bits : x.toNat / 4 * 2 ^ 18 + (x.toNat % 4 * 16 + y.toNat / 16) * 2 ^ 12 +
      (y.toNat % 16 * 4 + z.toNat / 64) * 2 ^ 6 + z.toNat % 64 =
        x.toNat * 2 ^ 16 + y.toNat * 2 ^ 8 + z.toNat := by omega
  simp only [quantumBytes, bits, List.map_cons, List.map_nil, List.take_succ_cons,
    List.take_zero]
  rw [show (x.toNat * 2 ^ 16 + y.toNat * 2 ^ 8 + z.toNat) / 2 ^ 16 = x.toNat by omega,
    show (x.toNat * 2 ^ 16 + y.toNat * 2 ^ 8 + z.toNat) / 2 ^ 8 % 2 ^ 8 = y.toNat by omega,
    show (x.toNat * 2 ^ 16 + y.toNat * 2 ^ 8 + z.toNat) % 2 ^ 8 = z.toNat by omega,
    toUInt8_toNat, toUInt8_toNat, toUInt8_toNat]

/-- Two bytes padded with `=`: the bits of the missing third byte are zero. -/
theorem quantumBytes_two (x y : UInt8) :
    quantumBytes (x.toNat / 4) (x.toNat % 4 * 16 + y.toNat / 16) (y.toNat % 16 * 4) 0 2 =
      [x, y] := by
  have hx : x.toNat < 256 := x.toNat_lt_size
  have hy : y.toNat < 256 := y.toNat_lt_size
  have bits : x.toNat / 4 * 2 ^ 18 + (x.toNat % 4 * 16 + y.toNat / 16) * 2 ^ 12 +
      y.toNat % 16 * 4 * 2 ^ 6 + 0 = x.toNat * 2 ^ 16 + y.toNat * 2 ^ 8 := by omega
  simp only [quantumBytes, bits, List.map_cons, List.map_nil, List.take_succ_cons,
    List.take_zero]
  rw [show (x.toNat * 2 ^ 16 + y.toNat * 2 ^ 8) / 2 ^ 16 = x.toNat by omega,
    show (x.toNat * 2 ^ 16 + y.toNat * 2 ^ 8) / 2 ^ 8 % 2 ^ 8 = y.toNat by omega,
    toUInt8_toNat, toUInt8_toNat]

/-- One byte padded with `==`. -/
theorem quantumBytes_one (x : UInt8) :
    quantumBytes (x.toNat / 4) (x.toNat % 4 * 16) 0 0 1 = [x] := by
  have hx : x.toNat < 256 := x.toNat_lt_size
  have bits : x.toNat / 4 * 2 ^ 18 + x.toNat % 4 * 16 * 2 ^ 12 + 0 * 2 ^ 6 + 0 =
      x.toNat * 2 ^ 16 := by omega
  simp only [quantumBytes, bits, List.map_cons, List.map_nil, List.take_succ_cons,
    List.take_zero]
  rw [show x.toNat * 2 ^ 16 / 2 ^ 16 = x.toNat by omega, toUInt8_toNat]

theorem base64Char_mem_alphabet {v : Nat} (h : v < 64) :
    base64Char v = 0x3D ∨ ∃ w < 64, base64Char v = base64Char w :=
  .inr ⟨v, h, rfl⟩

/-- The encoder writes only characters of the alphabet and `=`. -/
theorem mem_encodeBase64 {c : UInt8} :
    ∀ {bs : Bytes}, c ∈ encodeBase64 bs → c = 0x3D ∨ ∃ v < 64, c = base64Char v
  | x :: y :: z :: rest, mem => by
    have hx : x.toNat < 256 := x.toNat_lt_size
    have hy : y.toNat < 256 := y.toNat_lt_size
    have hz : z.toNat < 256 := z.toNat_lt_size
    simp only [encodeBase64, List.mem_cons] at mem
    rcases mem with rfl | rfl | rfl | rfl | mem
    iterate 4 exact base64Char_mem_alphabet (by omega)
    exact mem_encodeBase64 mem
  | [x, y], mem => by
    have hx : x.toNat < 256 := x.toNat_lt_size
    have hy : y.toNat < 256 := y.toNat_lt_size
    simp only [encodeBase64, List.mem_cons, List.not_mem_nil, or_false] at mem
    rcases mem with rfl | rfl | rfl | rfl
    iterate 3 exact base64Char_mem_alphabet (by omega)
    exact .inl rfl
  | [x], mem => by
    have hx : x.toNat < 256 := x.toNat_lt_size
    simp only [encodeBase64, List.mem_cons, List.not_mem_nil, or_false] at mem
    rcases mem with rfl | rfl | rfl | rfl
    iterate 2 exact base64Char_mem_alphabet (by omega)
    iterate 2 exact .inl rfl
  | [], mem => absurd mem (List.not_mem_nil _)

/-- So `DecodeString` drops no CR or LF from it. -/
theorem filter_encodeBase64 (bs : Bytes) :
    (encodeBase64 bs).filter (fun c => c != 13 && c != 10) = encodeBase64 bs := by
  refine List.filter_eq_self.mpr fun c mem => ?_
  rcases mem_encodeBase64 mem with rfl | ⟨v, lt, rfl⟩
  · rfl
  · have ⟨_, _, cr, lf⟩ := base64Char_sextet ⟨v, lt⟩
    simpa using ⟨cr, lf⟩

theorem decodeQuanta_encodeBase64 : ∀ bs : Bytes, decodeQuanta (encodeBase64 bs) = some bs
  | x :: y :: z :: rest => by
    have hx : x.toNat < 256 := x.toNat_lt_size
    have hy : y.toNat < 256 := y.toNat_lt_size
    have hz : z.toNat < 256 := z.toNat_lt_size
    simp only [encodeBase64, decodeQuanta, base64Value_base64Char (show x.toNat / 4 < 64 by omega),
      base64Value_base64Char (show x.toNat % 4 * 16 + y.toNat / 16 < 64 by omega),
      base64Value_base64Char (show y.toNat % 16 * 4 + z.toNat / 64 < 64 by omega),
      base64Value_base64Char (show z.toNat % 64 < 64 by omega),
      if_neg (base64Char_ne_pad (show y.toNat % 16 * 4 + z.toNat / 64 < 64 by omega)),
      if_neg (base64Char_ne_pad (show z.toNat % 64 < 64 by omega)),
      decodeQuanta_encodeBase64 rest, quantumBytes_three, Option.pure_def, Option.bind_eq_bind,
      Option.some_bind, List.cons_append, List.nil_append]
  | [x, y] => by
    have hx : x.toNat < 256 := x.toNat_lt_size
    have hy : y.toNat < 256 := y.toNat_lt_size
    simp only [encodeBase64, decodeQuanta, base64Value_base64Char (show x.toNat / 4 < 64 by omega),
      base64Value_base64Char (show x.toNat % 4 * 16 + y.toNat / 16 < 64 by omega),
      base64Value_base64Char (show y.toNat % 16 * 4 < 64 by omega),
      if_neg (base64Char_ne_pad (show y.toNat % 16 * 4 < 64 by omega)), and_self, if_true,
      quantumBytes_two, Option.pure_def, Option.bind_eq_bind, Option.some_bind]
  | [x] => by
    have hx : x.toNat < 256 := x.toNat_lt_size
    simp only [encodeBase64, decodeQuanta, base64Value_base64Char (show x.toNat / 4 < 64 by omega),
      base64Value_base64Char (show x.toNat % 4 * 16 < 64 by omega), and_self, if_true,
      quantumBytes_one, Option.pure_def, Option.bind_eq_bind, Option.some_bind]
  | [] => rfl

/-- `base64.StdEncoding.DecodeString` reads back what `EncodeToString` wrote, for every input. -/
theorem decodeBase64_encodeBase64 (bs : Bytes) : decodeBase64 (encodeBase64 bs) = some bs := by
  rw [decodeBase64, filter_encodeBase64, decodeQuanta_encodeBase64]

/-! ### The NUL split -/

theorem split_append_sep {field : Bytes} {sep : UInt8} (h : sep ∉ field) (rest : Bytes) :
    split (field ++ sep :: rest) sep = field :: split rest sep := by
  induction field with
  | nil => simp only [split, List.nil_append, List.foldr_cons, if_pos]
  | cons b field ih =>
    simp only [List.mem_cons, not_or] at h
    simp only [split, List.cons_append, List.foldr_cons] at ih ⊢
    rw [ih h.2, if_neg (Ne.symm h.1)]

/-- `strings.Split(message, "\x00")` gives back the three fields when none holds a NUL. -/
theorem split_plainMessage {authzId authnId password : Bytes}
    (noNul : 0 ∉ authzId ∧ 0 ∉ authnId ∧ 0 ∉ password) :
    split (plainMessage authzId authnId password) 0 = [authzId, authnId, password] := by
  rw [plainMessage, split_append_sep noNul.1, split_append_sep noNul.2.1,
    split_of_not_mem noNul.2.2]

/-! ### The handler -/

/-- `AUTHENTICATE PLAIN` with the base64 of a PLAIN message as its initial response, whatever the
case of the mechanism's name: when no field holds a NUL, the handler authenticates exactly the
authorization identity, authentication identity and password the client encoded, and goes on as
`handleAuthenticate` does with them. -/
theorem authenticate_plain_round_trip (o : Oracle) (cfg : ServerConfig) (n : Nat)
    (word mechanism authzId authnId password : Bytes) (s : Session) (w : World)
    (plain : toUpper o.unicodeUpper mechanism = utf8 "PLAIN")
    (noNul : 0 ∉ authzId ∧ 0 ∉ authnId ∧ 0 ∉ password) :
    handleAuthenticate o cfg n
        [word, mechanism, encodeBase64 (plainMessage authzId authnId password)] s w =
      match saslPlain o cfg n authzId authnId password w with
      | (.error response, w) => (s, w.send response, .next)
      | (.ok user, w) =>
        if o.cancelled n then (s, w, .next)
        else match s.lock.acquireWrite with
          | none => (s, w.send busy, .next)
          | some _ =>
            let (s, w) := authenticateSession (.plain authzId authnId password) user s w
            (s, w, .next) := by
  rw [handleAuthenticate, if_neg (not_not.mpr plain)]
  -- Both sides branch on the same three answers; in each branch they reduce to one term.
  cases answer : saslPlain o cfg n authzId authnId password w with
  | mk result w' =>
    cases result <;> cases cancelled : o.cancelled n <;> cases lock : s.lock.acquireWrite <;>
      simp only [authData, decodeBase64_encodeBase64, split_plainMessage noNul, answer, cancelled,
        lock, Bool.false_eq_true, ↓reduceIte]

/-- `AUTHENTICATE plain` for `u@example.com` with the password `secret` and no authorization
identity. -/
theorem authenticate_plain_lower_case :
    toUpper exampleOracle.unicodeUpper (utf8 "plain") = utf8 "PLAIN" ∧
      (0 ∉ ([] : Bytes) ∧ 0 ∉ utf8 "u@example.com" ∧ 0 ∉ utf8 "secret") ∧
      handleAuthenticate exampleOracle exampleConfig 0
          [utf8 "AUTHENTICATE", utf8 "plain",
            encodeBase64 (plainMessage [] (utf8 "u@example.com") (utf8 "secret"))]
          (Session.start [] []) exampleWorld =
        match saslPlain exampleOracle exampleConfig 0 [] (utf8 "u@example.com") (utf8 "secret")
            exampleWorld with
        | (.error response, w) => (Session.start [] [], w.send response, .next)
        | (.ok user, w) =>
          if exampleOracle.cancelled 0 then (Session.start [] [], w, .next)
          else match (Session.start [] []).lock.acquireWrite with
            | none => (Session.start [] [], w.send busy, .next)
            | some _ =>
              let (s, w) := authenticateSession (.plain [] (utf8 "u@example.com") (utf8 "secret"))
                user (Session.start [] []) w
              (s, w, .next) :=
  have plain : toUpper exampleOracle.unicodeUpper (utf8 "plain") = utf8 "PLAIN" := by decide
  have noNul : 0 ∉ ([] : Bytes) ∧ 0 ∉ utf8 "u@example.com" ∧ 0 ∉ utf8 "secret" := by
    decide
  ⟨plain, noNul, authenticate_plain_round_trip _ _ _ _ _ _ _ _ _ _ plain noNul⟩

/-! ### The response on a line of its own -/

/-- The alphabet is printable ASCII without `*`. -/
theorem base64Char_graphic :
    ∀ v : Fin 64, 0x21 ≤ (base64Char v).toNat ∧ (base64Char v).toNat < 0x80 ∧
      base64Char v ≠ 0x2A := by
  decide

theorem graphic_of_mem_encodeBase64 {bs : Bytes} {c : UInt8} (mem : c ∈ encodeBase64 bs) :
    0x21 ≤ c.toNat ∧ c.toNat < 0x80 ∧ c ≠ 0x2A := by
  rcases mem_encodeBase64 mem with rfl | ⟨v, lt, rfl⟩
  · decide
  · exact base64Char_graphic ⟨v, lt⟩

theorem encodeBase64_ne_nil : ∀ {bs : Bytes}, bs ≠ [] → encodeBase64 bs ≠ []
  | _ :: _ :: _ :: _, _ | [_, _], _ | [_], _ => List.cons_ne_nil _ _
  | [], h => absurd rfl h

theorem not_space_of_graphic {b : UInt8} (lo : 0x21 ≤ b.toNat) :
    ¬((9 ≤ b ∧ b ≤ 13) ∨ b = 32) := by
  have lo' : 0x21 ≤ b.toBitVec.toNat := lo
  simp only [UInt8.le_def, BitVec.le_def, UInt8.toBitVec_ofNat, BitVec.toNat_ofNat]
  rintro (⟨-, h⟩ | rfl)
  · omega
  · exact absurd lo (by decide)

/-- A printable ASCII byte starts no white-space rune. -/
theorem spaceRuneLength_of_graphic {b : UInt8} (rest : Bytes) (lo : 0x21 ≤ b.toNat)
    (hi : b.toNat < 0x80) : spaceRuneLength (b :: rest) = 0 := by
  have ne : ∀ c : UInt8, c.toNat < 0x21 ∨ 0x80 ≤ c.toNat → b ≠ c := by
    rintro c out rfl; omega
  simp only [spaceRuneLength]
  rw [if_neg (not_space_of_graphic lo)]
  split
  · rw [if_neg (ne _ (by decide))]
    split
    · rw [if_neg fun h => ne _ (by decide) h.1, if_neg fun h => ne _ (by decide) h.1,
        if_neg fun h => ne _ (by decide) h.1, if_neg fun h => ne _ (by decide) h.1]
    · rfl
  · rfl

/-- Nor does it end one. -/
theorem spaceRuneLengthBack_of_graphic {b : UInt8} (rest : Bytes) (lo : 0x21 ≤ b.toNat)
    (hi : b.toNat < 0x80) : spaceRuneLengthBack (b :: rest) = 0 := by
  have ne : ∀ c : UInt8, c.toNat < 0x21 ∨ 0x80 ≤ c.toNat → b ≠ c := by
    rintro c out rfl; omega
  have high : ¬(0x80 : UInt8) ≤ b := by
    have hi' : b.toBitVec.toNat < 0x80 := hi
    simp only [UInt8.le_def, BitVec.le_def, UInt8.toBitVec_ofNat, BitVec.toNat_ofNat]
    omega
  simp only [spaceRuneLengthBack]
  rw [if_neg (not_space_of_graphic lo)]
  split
  · rw [if_neg fun h => h.2.elim (ne _ (by decide)) (ne _ (by decide))]
    split
    · rw [if_neg fun h => ne _ (by decide) h.2.2,
        if_neg fun h => h.2.2.elim (fun h => high h.1)
          fun h => h.elim (ne _ (by decide)) fun h => h.elim (ne _ (by decide)) (ne _ (by decide)),
        if_neg fun h => ne _ (by decide) h.2.2, if_neg fun h => ne _ (by decide) h.2.2]
    · rfl
  · rfl

/-- `strings.TrimSpace` of a line of printable ASCII with its CR LF is the line. -/
theorem trimSpace_crlf {line : Bytes} (nonempty : line ≠ [])
    (graphic : ∀ c ∈ line, 0x21 ≤ c.toNat ∧ c.toNat < 0x80) :
    trimSpace (line ++ utf8 "\r\n") = line := by
  obtain ⟨b, rest, rfl⟩ := List.exists_cons_of_ne_nil nonempty
  obtain ⟨l, before, reversed⟩ :=
    List.exists_cons_of_ne_nil (List.reverse_ne_nil_iff.mpr nonempty)
  have first := graphic b (List.mem_cons_self _ _)
  have last := graphic l (List.mem_reverse.mp (reversed ▸ List.mem_cons_self l before))
  have crlf : utf8 "\r\n" = [13, 10] := rfl
  have front : dropRunes spaceRuneLength (b :: rest ++ [13, 10]).length (b :: rest ++ [13, 10]) =
      b :: rest ++ [13, 10] := by
    rw [List.cons_append, List.length_cons, dropRunes, spaceRuneLength_of_graphic _ first.1 first.2]
  have back : (b :: rest ++ [13, 10]).reverse = 10 :: 13 :: l :: before := by
    rw [List.reverse_append, reversed]
    rfl
  have length : (b :: rest ++ [13, 10]).length = rest.length + 2 + 1 := by simp
  unfold trimSpace
  simp only [crlf, front]
  rw [back, length]
  simp only [dropRunes, show spaceRuneLengthBack (10 :: 13 :: l :: before) = 1 from rfl,
    show spaceRuneLengthBack (13 :: l :: before) = 1 from rfl, List.drop_succ_cons, List.drop_zero,
    spaceRuneLengthBack_of_graphic _ last.1 last.2]
  rw [← reversed, List.reverse_reverse]

/-- `bufio.Reader.ReadString('\n')` of a line without LF, its CR LF and what follows. -/
theorem readString_crlf {line : Bytes} (noLF : 10 ∉ line) (rest : Bytes) :
    readString (line ++ utf8 "\r\n" ++ rest) = some (line ++ utf8 "\r\n", rest) := by
  have crlf : utf8 "\r\n" = [13, 10] := rfl
  have kept : ∀ a ∈ line ++ [13], (a != 10) = true := by
    intro a mem
    rcases List.mem_append.mp mem with mem | mem
    · exact bne_iff_ne.mpr fun lf => noLF (lf ▸ mem)
    · rw [List.mem_singleton.mp mem]
      rfl
  have split : line ++ utf8 "\r\n" ++ rest = line ++ [13] ++ 10 :: rest := by simp [crlf]
  rw [readString, split, List.span_eq_take_drop, List.takeWhile_append_of_pos kept,
    List.dropWhile_append_of_pos kept]
  simp [crlf]

/-- `AUTHENTICATE PLAIN` without an initial response: after the empty continuation `""` the client
sends the base64 of the PLAIN message on a line of its own, and the handler goes on exactly as
when the response stands on the command line. -/
theorem authenticate_plain_on_next_line (o : Oracle) (cfg : ServerConfig) (n : Nat)
    (word mechanism authzId authnId password rest : Bytes) (s : Session) (w : World)
    (plain : toUpper o.unicodeUpper mechanism = utf8 "PLAIN") :
    handleAuthenticate o cfg n [word, mechanism]
        { s with reader :=
            encodeBase64 (plainMessage authzId authnId password) ++ utf8 "\r\n" ++ rest } w =
      handleAuthenticate o cfg n
        [word, mechanism, encodeBase64 (plainMessage authzId authnId password)]
        { s with reader := rest } (w.send (utf8 "\"\"\r\n")) := by
  have nonempty : encodeBase64 (plainMessage authzId authnId password) ≠ [] :=
    encodeBase64_ne_nil (by simp [plainMessage])
  have noLF : 10 ∉ encodeBase64 (plainMessage authzId authnId password) := fun mem =>
    absurd (graphic_of_mem_encodeBase64 mem).1 (by decide)
  have notStar : encodeBase64 (plainMessage authzId authnId password) ≠ utf8 "*" := fun star =>
    (graphic_of_mem_encodeBase64 (star ▸ List.mem_singleton_self _ :
      0x2A ∈ encodeBase64 (plainMessage authzId authnId password))).2.2 rfl
  rw [handleAuthenticate, handleAuthenticate, if_neg (not_not.mpr plain),
    if_neg (not_not.mpr plain)]
  simp only [authData, readString_crlf noLF,
    trimSpace_crlf nonempty fun _ mem => (graphic_of_mem_encodeBase64 mem).imp_right And.left,
    if_neg notStar]

/-- `AUTHENTICATE PLAIN`, then the response for `u@example.com` and `secret` on the next line, and
`LISTSCRIPTS` after it. -/
theorem plain_response_on_next_line :
    toUpper exampleOracle.unicodeUpper (utf8 "PLAIN") = utf8 "PLAIN" ∧
      handleAuthenticate exampleOracle exampleConfig 0 [utf8 "AUTHENTICATE", utf8 "PLAIN"]
          { Session.start [] [] with
            reader := encodeBase64 (plainMessage [] (utf8 "u@example.com") (utf8 "secret")) ++
              utf8 "\r\n" ++ utf8 "LISTSCRIPTS\r\n" } exampleWorld =
        handleAuthenticate exampleOracle exampleConfig 0
          [utf8 "AUTHENTICATE", utf8 "PLAIN",
            encodeBase64 (plainMessage [] (utf8 "u@example.com") (utf8 "secret"))]
          { Session.start [] [] with reader := utf8 "LISTSCRIPTS\r\n" }
          (exampleWorld.send (utf8 "\"\"\r\n")) :=
  have plain : toUpper exampleOracle.unicodeUpper (utf8 "PLAIN") = utf8 "PLAIN" := by decide
  ⟨plain, authenticate_plain_on_next_line _ _ _ _ _ _ _ _ _ _ _ plain⟩

end Sora.ManageSieve
