import Mathlib.Data.List.Sort
import Mathlib.Data.Int.Bitwise

/-
Module: Sora.Db.Schema
Purpose: The rows of the tables that `db/append.go` and the sequence-caching migration read and
  write, the PostgreSQL errors they meet, and the database state they act on.
Trusted boundary: the columns of `messages`, `mailboxes`, `message_contents`, `pending_uploads`
  and `sieve_scripts` are read off the statements of `db/append.go`; their constraints off the
  `ON CONFLICT` targets and the constraint name that `InsertMessage` tests. The DDL of these
  tables is not under src.
Main exports: Envelope, MessageRow, MailboxRow, SequenceRow, ContentRow, PendingUploadRow,
  SieveScriptRow, State, SqlError, Flag, flagsToBitwise, FlagRecent
-/

namespace Sora.Db

/-! ### Column ranges -/

/-- A Go `string`: a sequence of bytes, not necessarily UTF-8. -/
abbrev Bytes := List UInt8

/-- Whether PostgreSQL accepts the bytes as a `TEXT` value of a UTF8 database: well-formed
UTF-8 (no overlong form, no surrogate, nothing past U+10FFFF) without a NUL byte. Otherwise the
statement fails with SQLSTATE 22021. -/
def validText : Bytes → Bool
  | [] => true
  | b :: rest =>
    if b = 0 then false
    else if b < 0x80 then validText rest
    else match rest with
      | c :: rest =>
        if 0xC2 ≤ b ∧ b ≤ 0xDF then continuation c && validText rest
        else match rest with
          | d :: rest =>
            if b = 0xE0 then 0xA0 ≤ c && c ≤ 0xBF && continuation d && validText rest
            else if b = 0xED then 0x80 ≤ c && c ≤ 0x9F && continuation d && validText rest
            else if 0xE1 ≤ b ∧ b ≤ 0xEF then continuation c && continuation d && validText rest
            else match rest with
              | e :: rest =>
                if b = 0xF0 then
                  0x90 ≤ c && c ≤ 0xBF && continuation d && continuation e && validText rest
                else if b = 0xF4 then
                  0x80 ≤ c && c ≤ 0x8F && continuation d && continuation e && validText rest
                else if 0xF1 ≤ b ∧ b ≤ 0xF3 then
                  continuation c && continuation d && continuation e && validText rest
                else false
              | [] => false
          | [] => false
      | [] => false
where
  continuation (c : UInt8) : Bool := 0x80 ≤ c && c ≤ 0xBF

/-- Largest value of a PostgreSQL `BIGINT`. -/
def bigintMax : Int := 2 ^ 63 - 1

/-- Smallest value of a PostgreSQL `BIGINT`. -/
def bigintMin : Int := -2 ^ 63

/-- Largest value of a PostgreSQL `INT`, the type of `message_sequences.seqnum`. -/
def intMax : Int := 2 ^ 31 - 1

/-- PostgreSQL's `BIGINT` addition: out of range is SQLSTATE 22003, not a wrap. -/
def bigintAdd (a b : Int) : Option Int :=
  if bigintMin ≤ a + b ∧ a + b ≤ bigintMax then some (a + b) else none

theorem bigintAdd_eq_some {a b c : Int} (h : bigintAdd a b = some c) : c = a + b := by
  unfold bigintAdd at h
  split at h
  · exact (Option.some.inj h).symm
  · cases h

/-! ### Flags -/

/-- Modelled from the spec: an IMAP flag as `InsertMessage` receives it, either one of the system
flags the `flags` bitfield holds (`\Seen \Answered \Flagged \Deleted \Draft \Recent`) or a user
keyword. `db/flags.go`, which defines `SplitFlags`, `FlagsToBitwise` and the bits, is not under
src. -/
inductive Flag where
  | seen
  | answered
  | flagged
  | deleted
  | draft
  | recent
  | keyword (name : String)
deriving Repr, DecidableEq

/-- Modelled from the spec: the bit of a system flag, in the order the spec lists them. -/
def Flag.bit : Flag → Int
  | .seen => 1
  | .answered => 2
  | .flagged => 4
  | .deleted => 8
  | .draft => 16
  | .recent => 32
  | .keyword _ => 0

/-- Modelled from the spec: the `\Recent` bit that `CopyMessages` ors into every copy. -/
def FlagRecent : Int := Flag.recent.bit

/-- Modelled from the spec: `SplitFlags` separates the system flags from the user keywords. -/
def splitFlags : List Flag → List Flag × List String
  | [] => ([], [])
  | .keyword name :: flags => ((splitFlags flags).1, name :: (splitFlags flags).2)
  | flag :: flags => (flag :: (splitFlags flags).1, (splitFlags flags).2)

/-- Modelled from the spec: `FlagsToBitwise` ors the bits of the system flags. -/
def flagsToBitwise (flags : List Flag) : Int :=
  flags.foldl (fun bits flag => Int.lor bits flag.bit) 0

/-! ### Rows -/

/-- The descriptive columns of a `messages` row: those `InsertMessage` fills from its options
after sanitising them (`in_reply_to`, `subject`, `sent_date`, `body_structure`,
`recipients_json`, the S3 location and the denormalised sort keys) and `CopyMessages` copies
unchanged. -/
structure Envelope where
  inReplyTo : String
  subject : String
  sentDate : Int
  bodyStructure : String
  recipientsJson : String
  s3Domain : String
  s3Localpart : String
  subjectSort : String
  fromNameSort : String
  fromEmailSort : String
  toEmailSort : String
  ccEmailSort : String
deriving Repr, DecidableEq

/-- A row of `messages`. `mailbox_id` is nullable (the trigger filters `mailbox_id IS NOT NULL`),
and a row is live while `expunged_at IS NULL`. -/
structure MessageRow where
  id : Int
  accountId : Int
  mailboxId : Option Int
  mailboxPath : String
  uid : Int
  messageId : String
  contentHash : String
  flags : Int
  customFlags : List String
  internalDate : Int
  size : Int
  envelope : Envelope
  uploaded : Bool
  createdModseq : Int
  flagsChangedAt : Option Int
  expungedAt : Option Int
deriving Repr, DecidableEq

/-- The row lies in mailbox `mailboxId` and is not expunged. -/
def MessageRow.liveIn (mailboxId : Int) (m : MessageRow) : Bool :=
  m.mailboxId == some mailboxId && m.expungedAt.isNone

/-- A row of `mailboxes`, with the columns `db/append.go` reads or writes. -/
structure MailboxRow where
  id : Int
  accountId : Int
  name : String
  highestUid : Int
  uidValidity : Int
deriving Repr, DecidableEq

/-- A row of `message_sequences` (migration 000002). -/
structure SequenceRow where
  mailboxId : Int
  uid : Int
  seqnum : Int
deriving Repr, DecidableEq

/-- A row of `message_contents`; the `tsvector` columns are derived from these two. -/
structure ContentRow where
  contentHash : String
  textBody : Option String
  headers : String
deriving Repr, DecidableEq

/-- A row of `pending_uploads`. -/
structure PendingUploadRow where
  instanceId : String
  contentHash : String
  size : Int
  createdAt : Int
  accountId : Int
deriving Repr, DecidableEq

/-- A row of `sieve_scripts`. The text columns hold the bytes of the Go strings that
`db/append.go` binds to them. -/
structure SieveScriptRow where
  id : Int
  accountId : Int
  name : Bytes
  script : Bytes
  active : Bool
  updatedAt : Int
deriving Repr, DecidableEq

/-! ### The database -/

/-- The database state the statements of `db/append.go` act on. The primary keys on
`messages.id` and `sieve_scripts.id` are carried as fields: every statement checks them, so no
state the server reaches breaks them. The three sequences hold the last value `nextval`
returned. -/
structure State where
  mailboxes : List MailboxRow
  messages : List MessageRow
  messageSequences : List SequenceRow
  messageContents : List ContentRow
  pendingUploads : List PendingUploadRow
  sieveScripts : List SieveScriptRow
  messageIdSeq : Int
  modseqSeq : Int
  scriptIdSeq : Int
  messages_id_unique : (messages.map MessageRow.id).Nodup
  sieveScripts_id_unique : (sieveScripts.map SieveScriptRow.id).Nodup

/-- The state in which every table is empty and no sequence has been used. -/
def State.empty : State where
  mailboxes := []
  messages := []
  messageSequences := []
  messageContents := []
  pendingUploads := []
  sieveScripts := []
  messageIdSeq := 0
  modseqSeq := 0
  scriptIdSeq := 0
  messages_id_unique := List.nodup_nil
  sieveScripts_id_unique := List.nodup_nil

/-- The row `SELECT ... FROM mailboxes WHERE id = $1` returns first, if any. -/
def State.mailbox? (db : State) (mailboxId : Int) : Option MailboxRow :=
  db.mailboxes.find? (·.id == mailboxId)

/-- The `highest_uid` of a mailbox, as `UPDATE mailboxes ... RETURNING highest_uid` reports it. -/
def State.highestUid? (db : State) (mailboxId : Int) : Option Int :=
  (db.mailbox? mailboxId).map (·.highestUid)

/-- The errors PostgreSQL reports to the statements modelled here. -/
inductive SqlError where
  /-- SQLSTATE 23505, with the name of the violated constraint. -/
  | uniqueViolation (constraint : String)
  /-- SQLSTATE 23503. -/
  | foreignKeyViolation (constraint : String)
  /-- SQLSTATE 22003. -/
  | numericValueOutOfRange
  /-- SQLSTATE 25P02: a statement sent after an earlier one of the transaction failed. -/
  | inFailedSqlTransaction
  /-- SQLSTATE 22021: bytes bound to a `TEXT` parameter that are not UTF-8 text. -/
  | characterNotInRepertoire
deriving Repr, DecidableEq

end Sora.Db
