import Sora.AdminApi.Maintenance

/-
Module: Sora.Proofs.AdminMaintenance
Purpose: What the maintenance handlers of the admin API ask the database for. Every limit and
  attempt count a handler passes on is positive (not negative, for the list of deleted messages),
  whatever the query holds. A health path of a host name and a component without a slash is
  routed to the component handler and cut back into the two.
Trusted boundary: `Sora.AdminApi.Maintenance`.
Main exports: MaintenanceCall.limits, query_limits_in_range, indexOf_append, splitString_around,
  health_component_path_round_trip
-/

namespace Sora.AdminApi

open Sora.Db (Bytes)
open Sora.ManageSieve (utf8 trimPrefix trimPrefix_append)
open Sora.UserApi (atoi)

variable {Time Row : Type}

/-! ### Limits -/

/-- The page sizes and attempt counts a call passes to the database. -/
def MaintenanceCall.limits : MaintenanceCall Time → List Int
  | .listDeletedMessages params => [params.limit]
  | .getHealthHistory _ _ _ limit | .getCacheMetrics _ _ limit => [limit]
  | .getUploaderStats maxAttempts => [maxAttempts]
  | .getFailedUploads maxAttempts limit => [maxAttempts, limit]
  | .restoreMessages _ | .getHealthStatus _ _ | .getLatestCacheMetrics => []

theorem positiveParameter_pos {fallback : Int} (positive : 0 < fallback) (str : Bytes) :
    0 < positiveParameter fallback str := by
  unfold positiveParameter
  split_ifs
  · exact positive
  · split
    · split_ifs with h
      · exact h
      · exact positive
    · exact positive

theorem bind_eq_ok {ε α β : Type} {x : Except ε α} {f : α → Except ε β} {b : β} :
    x >>= f = .ok b ↔ ∃ a, x = .ok a ∧ f a = .ok b := by
  cases x <;> simp [bind, Except.bind]

theorem pure_eq_ok {ε α : Type} {a b : α} : (pure a : Except ε α) = .ok b ↔ a = b := by
  simp [pure, Except.pure]

theorem deletedLimit_nonneg {limitStr : Bytes} {limit : Int}
    (read : deletedLimit limitStr = .ok limit) : 0 ≤ limit := by
  unfold deletedLimit at read
  split at read
  · cases pure_eq_ok.mp read
    decide
  · split at read
    · split at read
      · cases read
      · cases pure_eq_ok.mp read
        omega
    · cases read

/-- The limit of a listing of deleted messages is 100 or what `Atoi` read, and never
negative. -/
theorem listDeletedParams_limit {tp : TimeParsers Time} {r : ListDeletedRequest}
    {params : ListDeletedMessagesParams Time} (built : listDeletedParams tp r = .ok params) :
    0 ≤ params.limit := by
  simp only [listDeletedParams, bind_eq_ok, pure_eq_ok] at built
  obtain ⟨_, _, _, _, limit, read, rfl⟩ := built
  exact deletedLimit_nonneg read

section Handlers

variable (db : MaintenanceDb Time Row) (tp : TimeParsers Time) (dayAgo : Time)

theorem handleListDeletedMessages_limits (r : ListDeletedRequest) :
    ∀ c ∈ (handleListDeletedMessages db tp r).1, ∀ l ∈ c.limits, 0 ≤ l := by
  unfold handleListDeletedMessages
  cases built : listDeletedParams tp r with
  | error _ => nofun
  | ok params =>
    exact List.forall_mem_singleton.mpr
      (List.forall_mem_singleton.mpr (listDeletedParams_limit built))

theorem handleHealthStatusByComponent_limits (r : ComponentRequest) :
    ∀ c ∈ (handleHealthStatusByComponent db tp dayAgo r).1, ∀ l ∈ c.limits, 0 < l := by
  have limit := positiveParameter_pos (show (0 : Int) < 100 by decide) r.limit
  unfold handleHealthStatusByComponent
  cases hostAndComponent r.path with
  | none => nofun
  | some names =>
    obtain ⟨hostname, component⟩ := names
    dsimp only
    by_cases history : r.history = utf8 "true"
    · rw [if_pos history]
      cases sinceOrDayAgo tp dayAgo r.since with
      | none => nofun
      | some since => exact List.forall_mem_singleton.mpr (List.forall_mem_singleton.mpr limit)
    · rw [if_neg history]
      exact List.forall_mem_singleton.mpr nofun

theorem handleCacheMetrics_limits (r : CacheMetricsRequest) :
    ∀ c ∈ (handleCacheMetrics db tp dayAgo r).1, ∀ l ∈ c.limits, 0 < l := by
  have limit := positiveParameter_pos (show (0 : Int) < 100 by decide) r.limit
  unfold handleCacheMetrics
  by_cases latest : r.latest = utf8 "true"
  · rw [if_pos latest]
    exact List.forall_mem_singleton.mpr nofun
  · rw [if_neg latest]
    cases sinceOrDayAgo tp dayAgo r.since with
    | none => nofun
    | some since => exact List.forall_mem_singleton.mpr (List.forall_mem_singleton.mpr limit)

theorem handleUploaderStatus_limits (r : UploaderStatusRequest) :
    ∀ c ∈ (handleUploaderStatus db r).1, ∀ l ∈ c.limits, 0 < l := by
  have attempts := positiveParameter_pos (show (0 : Int) < 5 by decide) r.maxAttempts
  have failed := positiveParameter_pos (show (0 : Int) < 10 by decide) r.failedLimit
  unfold handleUploaderStatus
  dsimp only
  cases db.getUploaderStats (positiveParameter 5 r.maxAttempts) with
  | error _ => exact List.forall_mem_singleton.mpr (List.forall_mem_singleton.mpr attempts)
  | ok stats =>
    dsimp only
    by_cases showFailed : r.showFailed = utf8 "true"
    · rw [if_pos showFailed]
      exact List.forall_mem_cons.mpr ⟨List.forall_mem_singleton.mpr attempts,
        List.forall_mem_singleton.mpr
          (List.forall_mem_cons.mpr ⟨attempts, List.forall_mem_singleton.mpr failed⟩)⟩
    · rw [if_neg showFailed]
      exact List.forall_mem_singleton.mpr (List.forall_mem_singleton.mpr attempts)

theorem handleFailedUploads_limits (r : FailedUploadsRequest) :
    ∀ c ∈ (handleFailedUploads db r).1, ∀ l ∈ c.limits, 0 < l := by
  have attempts := positiveParameter_pos (show (0 : Int) < 5 by decide) r.maxAttempts
  have limit := positiveParameter_pos (show (0 : Int) < 50 by decide) r.limit
  exact List.forall_mem_singleton.mpr
    (List.forall_mem_cons.mpr ⟨attempts, List.forall_mem_singleton.mpr limit⟩)

end Handlers

/-- Whatever the query holds, every page size and attempt count the maintenance handlers pass to
the database is positive, except the limit of the deleted-message listing, which is never
negative but may be 0. -/
theorem query_limits_in_range (db : MaintenanceDb Time Row) (tp : TimeParsers Time)
    (dayAgo : Time) (deleted : ListDeletedRequest) (health : ComponentRequest)
    (metrics : CacheMetricsRequest) (uploader : UploaderStatusRequest)
    (failed : FailedUploadsRequest) :
    (∀ c ∈ (handleListDeletedMessages db tp deleted).1, ∀ l ∈ c.limits, 0 ≤ l) ∧
      ∀ c ∈ (handleHealthStatusByComponent db tp dayAgo health).1 ++
          (handleCacheMetrics db tp dayAgo metrics).1 ++ (handleUploaderStatus db uploader).1 ++
          (handleFailedUploads db failed).1,
        ∀ l ∈ c.limits, 0 < l := by
  refine ⟨handleListDeletedMessages_limits db tp deleted, fun c mem => ?_⟩
  simp only [List.mem_append] at mem
  rcases mem with ((mem | mem) | mem) | mem
  exacts [handleHealthStatusByComponent_limits db tp dayAgo health c mem,
    handleCacheMetrics_limits db tp dayAgo metrics c mem,
    handleUploaderStatus_limits db uploader c mem, handleFailedUploads_limits db failed c mem]

/-! ### Health paths -/

theorem containsBytes_append_of_right {sub : Bytes} :
    ∀ (pre : Bytes) {s : Bytes}, containsBytes s sub = true → containsBytes (pre ++ s) sub = true
  | [], _, h => h
  | _ :: pre, _, h => by
    rw [List.cons_append, containsBytes, containsBytes_append_of_right pre h, Bool.or_true]

theorem containsBytes_self_append (sub rest : Bytes) : containsBytes (sub ++ rest) sub = true := by
  unfold containsBytes
  simp [List.isPrefixOf_iff_prefix]

/-- Before a separator whose first byte is not in `s`, `strings.Index` skips all of `s`. -/
theorem indexOf_append_of_not_mem {b : UInt8} {sepRest s : Bytes} (h : b ∉ s) (rest : Bytes) :
    indexOf (s ++ rest) (b :: sepRest) = (indexOf rest (b :: sepRest)).map (· + s.length) := by
  induction s with
  | nil => simp
  | cons x s ih =>
    simp only [List.mem_cons, not_or] at h
    have first : (b :: sepRest).isPrefixOf (x :: (s ++ rest)) = false := by
      simp [List.isPrefixOf, h.1]
    rw [List.cons_append, indexOf, first, if_neg Bool.false_ne_true, ih h.2, Option.map_map]
    simp only [Function.comp_def, List.length_cons, Nat.add_assoc, Nat.add_comm 1]

theorem indexOf_of_not_mem {b : UInt8} {sepRest s : Bytes} (h : b ∉ s) :
    indexOf s (b :: sepRest) = none := by
  simpa [indexOf, List.isPrefixOf] using @indexOf_append_of_not_mem b sepRest s h []

theorem indexOf_self_append (sep rest : Bytes) : indexOf (sep ++ rest) sep = some 0 := by
  unfold indexOf
  rw [if_pos (List.isPrefixOf_iff_prefix.mpr (List.prefix_append _ _))]

/-- `strings.Index` finds the separator where it was put, after a part without its first byte. -/
theorem indexOf_around {b : UInt8} {sepRest h c : Bytes} (hb : b ∉ h) :
    indexOf (h ++ (b :: sepRest ++ c)) (b :: sepRest) = some h.length := by
  rw [indexOf_append_of_not_mem hb, indexOf_self_append]
  simp

/-- `strings.Split` of two parts around the separator, when neither holds its first byte. -/
theorem splitString_around {b : UInt8} {sepRest h c : Bytes} (hb : b ∉ h) (hc : b ∉ c) :
    splitString (h ++ (b :: sepRest ++ c)) (b :: sepRest) = [h, c] := by
  obtain ⟨fuel, fuel_eq⟩ : ∃ fuel, (h ++ (b :: sepRest ++ c)).length = fuel + 1 :=
    ⟨h.length + sepRest.length + c.length, by simp; omega⟩
  rw [splitString, fuel_eq, splitString.go, indexOf_around hb]
  dsimp only
  have rest : (h ++ (b :: sepRest ++ c)).drop (h.length + (b :: sepRest).length) = c := by
    rw [← List.append_assoc, List.drop_append_eq_append_drop]
    simp
  rw [List.take_left, rest, splitString.go, indexOf_of_not_mem hc]

theorem components_sep : utf8 "/components/" = 0x2F :: utf8 "components/" := rfl

/-- A health path of a host name and a component without a slash: `handleHealthOperations` sends
it to the component handler (on `GET`), and `handleHealthStatusByComponent` cuts it back into the
host name and the component. -/
theorem health_component_path_round_trip (hostname component method : Bytes)
    (noSlash : 0x2F ∉ hostname ∧ 0x2F ∉ component) :
    handleHealthOperations
        (utf8 "/admin/health/servers/" ++ hostname ++ utf8 "/components/" ++ component) method =
      (if method = utf8 "GET" then some .statusByComponent else none) ∧
    hostAndComponent
        (utf8 "/admin/health/servers/" ++ hostname ++ utf8 "/components/" ++ component) =
      some (hostname, component) := by
  have path : utf8 "/admin/health/servers/" ++ hostname ++ utf8 "/components/" ++ component =
      utf8 "/admin/health/servers/" ++ (hostname ++ (utf8 "/components/" ++ component)) := by
    simp only [List.append_assoc]
  rw [path]
  constructor
  · rw [handleHealthOperations, if_pos (containsBytes_append_of_right _
      (containsBytes_append_of_right _ (containsBytes_self_append _ _)))]
    by_cases get : method = utf8 "GET" <;> simp [get]
  · rw [hostAndComponent, trimPrefix_append, components_sep,
      splitString_around noSlash.1 noSlash.2]

/-- `mail1` and `imap`. -/
theorem imap_health_path_round_trip :
    (0x2F ∉ utf8 "mail1" ∧ 0x2F ∉ utf8 "imap") ∧
      hostAndComponent (utf8 "/admin/health/servers/" ++ utf8 "mail1" ++ utf8 "/components/" ++
        utf8 "imap") = some (utf8 "mail1", utf8 "imap") :=
  have noSlash : 0x2F ∉ utf8 "mail1" ∧ 0x2F ∉ utf8 "imap" := by decide
  ⟨noSlash, (health_component_path_round_trip _ _ (utf8 "GET") noSlash).2⟩

/-! ### Nothing of the path is lost -/

/-- Where `strings.Index` finds the separator, the string is what comes before it, the separator,
and what comes after it. -/
theorem indexOf_eq_some {sep : Bytes} :
    ∀ {s : Bytes} {i : Nat}, indexOf s sep = some i → s = s.take i ++ sep ++ s.drop (i + sep.length)
  | s, i, found => by
    unfold indexOf at found
    split at found
    · rename_i prefixed
      obtain ⟨rest, rfl⟩ := List.isPrefixOf_iff_prefix.mp prefixed
      cases found
      simp
    · split at found
      · cases found
      · rename_i x rest
        obtain ⟨j, later, rfl⟩ := Option.map_eq_some'.mp found
        have split := indexOf_eq_some later
        conv_lhs => rw [split]
        simp [Nat.add_right_comm j 1]

theorem go_ne_nil (sep : Bytes) : ∀ (fuel : Nat) (s : Bytes), splitString.go sep fuel s ≠ []
  | 0, _ => List.cons_ne_nil _ _
  | _ + 1, s => by
    unfold splitString.go
    split <;> exact List.cons_ne_nil _ _

/-- Joining the fields of `strings.Split` with the separator gives the string back, whatever the
fuel. -/
theorem intercalate_go (sep : Bytes) :
    ∀ (fuel : Nat) (s : Bytes), sep.intercalate (splitString.go sep fuel s) = s
  | 0, _ => by simp [splitString.go, List.intercalate]
  | fuel + 1, s => by
    unfold splitString.go
    split
    · simp [List.intercalate]
    · rename_i i found
      obtain ⟨next, more, split⟩ := List.exists_cons_of_ne_nil
        (go_ne_nil sep fuel (s.drop (i + sep.length)))
      have rejoined := intercalate_go sep fuel (s.drop (i + sep.length))
      rw [split] at rejoined ⊢
      simp only [List.intercalate, List.intersperse_cons₂, List.flatten_cons] at rejoined ⊢
      rw [← List.append_assoc, rejoined]
      exact (indexOf_eq_some found).symm

/-- For every path `handleHealthStatusByComponent` accepts, the host name and the component it
reads, joined again by `/components/`, are the path after `/admin/health/servers/`: the split
loses and changes nothing. -/
theorem hostAndComponent_rejoins {path hostname component : Bytes}
    (accepted : hostAndComponent path = some (hostname, component)) :
    trimPrefix path (utf8 "/admin/health/servers/") =
      hostname ++ utf8 "/components/" ++ component := by
  unfold hostAndComponent at accepted
  split at accepted
  · rename_i fields
    cases accepted
    have rejoined := intercalate_go (utf8 "/components/")
      ((trimPrefix path (utf8 "/admin/health/servers/")).length + 1)
      (trimPrefix path (utf8 "/admin/health/servers/"))
    rw [← splitString, fields] at rejoined
    simpa [List.intercalate] using rejoined.symm
  · cases accepted

/-- The path of the `imap` component of `mail1`. -/
theorem imap_health_path_rejoins :
    hostAndComponent (utf8 "/admin/health/servers/mail1/components/imap") =
        some (utf8 "mail1", utf8 "imap") ∧
      trimPrefix (utf8 "/admin/health/servers/mail1/components/imap")
          (utf8 "/admin/health/servers/") = utf8 "mail1" ++ utf8 "/components/" ++ utf8 "imap" :=
  have accepted : hostAndComponent (utf8 "/admin/health/servers/mail1/components/imap") =
      some (utf8 "mail1", utf8 "imap") := by decide
  ⟨accepted, hostAndComponent_rejoins accepted⟩

end Sora.AdminApi
