import Sora.UserApi.Messages
import Sora.Proofs.Literals

/-
Module: Sora.Proofs.UserMessages
Purpose: The pages `handleListMessages` asks the database for. Whatever the query string, a page
  has at least 1 and at most 1000 messages and starts at an offset that is not negative. A limit
  and an offset the client writes in decimal are read back exactly by `strconv.Atoi`: the page
  asked for has the limit cut to 1000 and the offset as written, and a limit below 1, an offset
  below 0, or a number past the range of `int` is refused before the database is asked.
Trusted boundary: `Sora.UserApi.Messages`, `Sora.Proofs.Literals`.
Main exports: atoi_decimal, limitParameter_decimal, offsetParameter_decimal,
  list_messages_page_bounds, list_messages_page_from_query
-/

namespace Sora.UserApi

open Sora.Db (Bytes)
open Sora.ManageSieve (utf8 decimal digitsValue decimal_natCast decimal_negSucc)

/-! ### `strconv.Atoi` reads `%d` back -/

theorem atoiDigits_of_digits (negative : Bool) {digits : Bytes} (nonempty : digits ≠ [])
    (isDigit : ∀ d ∈ digits, 0x30 ≤ d ∧ d ≤ 0x39) :
    atoiDigits negative digits =
      let value : Int := if negative then -(digitsValue digits : Int) else digitsValue digits
      if -2 ^ 63 ≤ value ∧ value < 2 ^ 63 then some value else none := by
  have all : digits.all (fun c => 0x30 ≤ c && c ≤ 0x39) = true := by simpa using isDigit
  simp only [atoiDigits, nonempty, all, Bool.not_true, Bool.false_eq_true, or_self, ↓reduceIte]

/-- Digits with no sign in front are read as they are. -/
theorem atoi_of_digits {digits : Bytes} (nonempty : digits ≠ [])
    (isDigit : ∀ d ∈ digits, 0x30 ≤ d ∧ d ≤ 0x39) : atoi digits = atoiDigits false digits := by
  obtain ⟨b, rest, rfl⟩ := List.exists_cons_of_ne_nil nonempty
  obtain ⟨lo, -⟩ := isDigit b (.head _)
  unfold atoi
  split <;> rename_i heq
  · obtain ⟨rfl, -⟩ := List.cons.inj heq
    exact absurd lo (by decide)
  · obtain ⟨rfl, -⟩ := List.cons.inj heq
    exact absurd lo (by decide)
  · rfl

/-- `strconv.Atoi` reads back what `fmt.Sprintf("%d", k)` writes, for every `k` in the range of
`int`, and refuses every other `k`. -/
theorem atoi_decimal (k : Int) :
    atoi (decimal k) = if -2 ^ 63 ≤ k ∧ k < 2 ^ 63 then some k else none := by
  cases k with
  | ofNat n =>
    rw [Int.ofNat_eq_coe]
    obtain ⟨nonempty, isDigit, value⟩ := decimal_natCast n
    rw [atoi_of_digits nonempty isDigit, atoiDigits_of_digits false nonempty isDigit, value]
    rfl
  | negSucc m =>
    obtain ⟨nonempty, isDigit, value⟩ := decimal_natCast (m + 1)
    rw [decimal_negSucc, atoi, Int.ofNat_eq_coe, atoiDigits_of_digits true nonempty isDigit, value]
    simp only [↓reduceIte, Int.negSucc_eq, Nat.cast_add, Nat.cast_one]

theorem decimal_ne_nil (k : Int) : decimal k ≠ [] := by
  cases k with
  | ofNat n => exact (decimal_natCast n).1
  | negSucc m => rw [decimal_negSucc]; exact List.cons_ne_nil _ _

/-! ### The page parameters -/

theorem limitParameter_bounds {limitStr : Bytes} {limit : Int}
    (read : limitParameter limitStr = some limit) : 1 ≤ limit ∧ limit ≤ 1000 := by
  unfold limitParameter at read
  split_ifs at read
  · cases read; decide
  split at read
  · split_ifs at read <;> cases read <;> omega
  · cases read

theorem offsetParameter_nonneg {offsetStr : Bytes} {offset : Int}
    (read : offsetParameter offsetStr = some offset) : 0 ≤ offset := by
  unfold offsetParameter at read
  split_ifs at read
  · cases read; decide
  split at read
  · split_ifs at read; cases read; omega
  · cases read

/-- A limit written in decimal is taken, cut to 1000, when it is at least 1 and fits an `int`. -/
theorem limitParameter_decimal (k : Int) :
    limitParameter (decimal k) = if 1 ≤ k ∧ k < 2 ^ 63 then some (min k 1000) else none := by
  rw [limitParameter, if_neg (decimal_ne_nil k), atoi_decimal]
  by_cases fits : -2 ^ 63 ≤ k ∧ k < 2 ^ 63
  · rw [if_pos fits]
    dsimp only
    split_ifs <;> first | rfl | omega | (congr 1; omega)
  · rw [if_neg fits, if_neg (by omega)]

/-- An offset written in decimal is taken when it is not negative and fits an `int`. -/
theorem offsetParameter_decimal (k : Int) :
    offsetParameter (decimal k) = if 0 ≤ k ∧ k < 2 ^ 63 then some k else none := by
  rw [offsetParameter, if_neg (decimal_ne_nil k), atoi_decimal]
  by_cases fits : -2 ^ 63 ≤ k ∧ k < 2 ^ 63
  · rw [if_pos fits]
    dsimp only
    split_ifs <;> first | rfl | omega
  · rw [if_neg fits, if_neg (by omega)]

/-! ### The page the handler asks for -/

section Handler

variable {Message : Type} (db : MessagesDb Message)

/-- The first call `handleListMessages` makes, if any, asks for the page its parameters read. -/
theorem handleListMessages_head (r : ListRequest) :
    (handleListMessages db r).1.head? =
      match r.accountId, r.mailboxName, limitParameter r.limit, offsetParameter r.offset with
      | some accountId, some mailboxName, some limit, some offset =>
        if mailboxName = [] then none
        else some (.getMessagesForMailbox accountId mailboxName limit offset
          (r.unseen == utf8 "true"))
      | _, _, _, _ => none := by
  unfold handleListMessages
  cases r.accountId with
  | none => rfl
  | some accountId =>
  cases r.mailboxName with
  | none => rfl
  | some mailboxName =>
  by_cases empty : mailboxName = []
  · subst empty
    cases limitParameter r.limit <;> cases offsetParameter r.offset <;> rfl
  simp only [empty, ↓reduceIte]
  cases limitParameter r.limit with
  | none => rfl
  | some limit =>
  cases offsetParameter r.offset with
  | none => rfl
  | some offset =>
  dsimp only
  rw [if_neg empty]
  split
  · split <;> rfl
  · rfl

/-- After the page, `handleListMessages` asks only for a count. -/
theorem handleListMessages_tail (r : ListRequest) :
    ∀ c ∈ (handleListMessages db r).1.tail, ∃ accountId mailboxName,
      c = .getUnseenCountForMailbox accountId mailboxName ∨
        c = .getMessageCountForMailbox accountId mailboxName := by
  obtain ⟨accountId, mailboxName, limit, offset, unseen⟩ := r
  unfold handleListMessages
  cases accountId with
  | none => nofun
  | some accountId =>
  cases mailboxName with
  | none => nofun
  | some mailboxName =>
  dsimp only
  by_cases empty : mailboxName = []
  · rw [if_pos empty]
    nofun
  rw [if_neg empty]
  cases limitParameter limit with
  | none => nofun
  | some limit =>
  cases offsetParameter offset with
  | none => nofun
  | some offset =>
  dsimp only
  cases db.getMessagesForMailbox accountId mailboxName limit offset (unseen == utf8 "true") with
  | error notFound => cases notFound <;> nofun
  | ok messages =>
    simp only [List.tail_cons, List.mem_singleton, forall_eq]
    cases unseen == utf8 "true"
    exacts [⟨_, _, .inr rfl⟩, ⟨_, _, .inl rfl⟩]

/-- Whatever the query string and whatever the database answers, every page `handleListMessages`
asks for has at least 1 and at most 1000 messages and an offset that is not negative. -/
theorem list_messages_page_bounds (r : ListRequest) (accountId : Int) (mailboxName : Bytes)
    (limit offset : Int) (unseenOnly : Bool)
    (asked : MessagesCall.getMessagesForMailbox accountId mailboxName limit offset unseenOnly ∈
      (handleListMessages db r).1) :
    1 ≤ limit ∧ limit ≤ 1000 ∧ 0 ≤ offset := by
  have first : (handleListMessages db r).1.head? =
      some (.getMessagesForMailbox accountId mailboxName limit offset unseenOnly) := by
    generalize calls : (handleListMessages db r).1 = cs at asked
    cases cs with
    | nil => cases asked
    | cons c more =>
      rcases List.mem_cons.mp asked with same | later
      · rw [same]; rfl
      · obtain ⟨_, _, count | count⟩ := handleListMessages_tail db r _ (by rw [calls]; exact later)
          <;> cases count
  rw [handleListMessages_head] at first
  split at first
  · split_ifs at first
    cases first
    rename_i limitRead offsetRead
    exact ⟨(limitParameter_bounds limitRead).1, (limitParameter_bounds limitRead).2,
      offsetParameter_nonneg offsetRead⟩
  · cases first

/-- For an authorized request naming a mailbox, whose `limit` and `offset` are written in
decimal as `k` and `f`: the database is asked for the page of `min k 1000` messages from `f`
exactly when `k` is at least 1, `f` is not negative and both fit an `int`; otherwise the request
is refused before any call. -/
theorem list_messages_page_from_query (r : ListRequest) (accountId : Int) (mailboxName : Bytes)
    (k f : Int) (authorized : r.accountId = some accountId)
    (named : r.mailboxName = some mailboxName) (nonempty : mailboxName ≠ [])
    (limitGiven : r.limit = decimal k) (offsetGiven : r.offset = decimal f) :
    (handleListMessages db r).1.head? =
      if 1 ≤ k ∧ k < 2 ^ 63 ∧ 0 ≤ f ∧ f < 2 ^ 63 then
        some (.getMessagesForMailbox accountId mailboxName (min k 1000) f
          (r.unseen == utf8 "true"))
      else none := by
  rw [handleListMessages_head, authorized, named, limitGiven, offsetGiven, limitParameter_decimal,
    offsetParameter_decimal]
  by_cases limitOk : 1 ≤ k ∧ k < 2 ^ 63 <;> by_cases offsetOk : 0 ≤ f ∧ f < 2 ^ 63 <;>
    simp only [limitOk, offsetOk, nonempty, and_self, and_true, and_false, true_and, false_and,
      ↓reduceIte, not_false_eq_true]

/-- A mailbox of any name that holds nothing, and whose counts fail. -/
def emptyMailboxDb : MessagesDb Unit where
  getMessagesForMailbox _ _ _ _ _ := .ok []
  getUnseenCountForMailbox _ _ := .error false
  getMessageCountForMailbox _ _ := .error false
  searchMessagesInMailbox _ _ _ := .ok []

/-- `GET /user/v1/mailboxes/INBOX/messages?limit=5000&offset=20` for the account 7. -/
def inboxRequest : ListRequest :=
  ⟨some 7, some (utf8 "INBOX"), decimal 5000, decimal 20, []⟩

theorem inbox_page_cut_to_thousand :
    MessagesCall.getMessagesForMailbox 7 (utf8 "INBOX") 1000 20 false ∈
        (handleListMessages emptyMailboxDb inboxRequest).1 ∧
      1 ≤ (1000 : Int) ∧ (1000 : Int) ≤ 1000 ∧ 0 ≤ (20 : Int) :=
  have asked : MessagesCall.getMessagesForMailbox 7 (utf8 "INBOX") 1000 20 false ∈
      (handleListMessages emptyMailboxDb inboxRequest).1 := by decide
  ⟨asked, list_messages_page_bounds emptyMailboxDb inboxRequest 7 (utf8 "INBOX") 1000 20 false
    asked⟩

theorem inbox_page_from_query :
    inboxRequest.accountId = some 7 ∧ inboxRequest.mailboxName = some (utf8 "INBOX") ∧
      utf8 "INBOX" ≠ [] ∧ inboxRequest.limit = decimal 5000 ∧ inboxRequest.offset = decimal 20 ∧
      (handleListMessages emptyMailboxDb inboxRequest).1.head? =
        if 1 ≤ (5000 : Int) ∧ (5000 : Int) < 2 ^ 63 ∧ 0 ≤ (20 : Int) ∧ (20 : Int) < 2 ^ 63 then
          some (.getMessagesForMailbox 7 (utf8 "INBOX") (min 5000 1000) 20
            (inboxRequest.unseen == utf8 "true"))
        else none :=
  have nonempty : utf8 "INBOX" ≠ [] := by decide
  ⟨rfl, rfl, nonempty, rfl, rfl, list_messages_page_from_query emptyMailboxDb inboxRequest 7
    (utf8 "INBOX") 5000 20 rfl rfl nonempty rfl rfl⟩

end Handler

end Sora.UserApi
