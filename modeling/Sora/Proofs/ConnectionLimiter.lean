import Sora.Server.ConnectionLimiter

/-
Module: Sora.Proofs.ConnectionLimiter
Purpose: What `ConnectionLimiter` keeps over every interleaving, and what it does not. Its atomic
  counters count exactly: `currentTotal` the goroutines between their `Add(1)` and `Add(-1)` on
  it, each per-IP counter likewise. The limits do not hold: `CanAccept` loads a counter and
  `Accept` adds to it in a later step, and a release can delete the map entry that a concurrent
  `Accept` is about to add to.
Trusted boundary: `Sora.Server.ConnectionLimiter`.
Main exports: Pc.holdsTotal, Pc.holdsCounter, Pc.refs, CountsExact
-/

namespace Sora.Server

variable {κ : Type}

/-! ### What a goroutine holds -/

/-- The goroutine has added 1 to `currentTotal` and not yet taken it back. -/
def Pc.holdsTotal : Pc → Bool
  | .register | .addPerIP _ | .accepted _ | .releaseTotal _ => true
  | _ => false

/-- The goroutine has added 1 to the counter at `ref` and not yet taken it back. -/
def Pc.holdsCounter (ref : Nat) : Pc → Bool
  | .accepted (some r) | .releaseTotal (some r) | .releasePerIP r => decide (r = ref)
  | _ => false

/-- The counter addresses among the goroutine's locals. -/
def Pc.refs : Pc → List Nat
  | .check r | .addPerIP r | .accepted (some r) | .releaseTotal (some r) | .releasePerIP r
  | .delete r => [r]
  | _ => []

/-! ### The counters under one step -/

@[simp] theorem Shared.counter_addCounter {sh : Shared κ} {r : Nat} (h : r < sh.counters.length)
    (delta : Int) (ref : Nat) :
    (sh.addCounter r delta).counter ref = sh.counter ref + if r = ref then delta else 0 := by
  simp only [Shared.counter, Shared.addCounter, List.getD_eq_getElem?_getD, List.getElem?_modify]
  by_cases hr : r = ref
  · subst hr; simp [List.getElem?_eq_getElem h]
  · cases sh.counters[ref]? <;> simp [hr]

@[simp] theorem Shared.addCounter_length (sh : Shared κ) (r : Nat) (delta : Int) :
    (sh.addCounter r delta).counters.length = sh.counters.length :=
  List.length_modify ..

theorem Shared.counter_append_zero (sh : Shared κ) (total : Int) (map : List (κ × Nat))
    (ref : Nat) :
    (⟨total, map, sh.counters ++ [0]⟩ : Shared κ).counter ref = sh.counter ref := by
  simp only [Shared.counter, List.getD_eq_getElem?_getD, List.getElem?_append]
  split
  · rfl
  · rw [List.getElem?_eq_none (l := sh.counters) (Nat.le_of_not_lt ‹_›)]
    cases ref - sh.counters.length <;> simp

/-- A step moves `currentTotal` by what the goroutine takes or gives back. -/
theorem Thread.step_total [DecidableEq κ] (cfg : Config) (ip : κ) (trusted : Bool) (pc : Pc)
    (sh : Shared κ) :
    (Thread.step cfg ip trusted pc sh).2.currentTotal + (pc.holdsTotal.toNat : Int) =
      sh.currentTotal + ((Thread.step cfg ip trusted pc sh).1.holdsTotal.toNat : Int) := by
  cases pc with
  | start => simp only [Thread.step]; split_ifs <;> rfl
  | lookup => simp only [Thread.step]; split <;> rfl
  | check r => simp only [Thread.step]; split_ifs <;> rfl
  | addTotal => simp only [Thread.step]; split <;> simp [Pc.holdsTotal]
  | register => simp only [Thread.step]; split <;> rfl
  | releaseTotal c => cases c <;> simp [Thread.step, Pc.holdsTotal]
  | releasePerIP r => simp only [Thread.step]; split_ifs <;> rfl
  | delete r => simp only [Thread.step]; split_ifs <;> rfl
  | addPerIP | refused | accepted | released => rfl

/-- A step moves the counter at `ref` by what the goroutine adds to it or takes back, once the
counters it holds are allocated. -/
theorem Thread.step_counter [DecidableEq κ] (cfg : Config) (ip : κ) (trusted : Bool) (pc : Pc)
    (sh : Shared κ) (held : ∀ r ∈ pc.refs, r < sh.counters.length) (ref : Nat) :
    (Thread.step cfg ip trusted pc sh).2.counter ref + ((pc.holdsCounter ref).toNat : Int) =
      sh.counter ref + (((Thread.step cfg ip trusted pc sh).1.holdsCounter ref).toNat : Int) := by
  cases pc with
  | start => simp only [Thread.step]; split_ifs <;> rfl
  | lookup => simp only [Thread.step]; split <;> rfl
  | check r => simp only [Thread.step]; split_ifs <;> rfl
  | addTotal => simp only [Thread.step]; split <;> rfl
  | register =>
    simp only [Thread.step]
    split
    · rfl
    · simp [Shared.counter_append_zero, Pc.holdsCounter]
  | addPerIP r =>
    simp only [Thread.step, Shared.counter_addCounter (held r (by simp [Pc.refs])), Pc.holdsCounter]
    by_cases hr : r = ref <;> simp [hr]
  | releasePerIP r =>
    simp only [Thread.step, Shared.counter_addCounter (held r (by simp [Pc.refs])), Pc.holdsCounter]
    by_cases hr : r = ref <;> split_ifs <;>
      simp only [hr, Pc.holdsCounter, eq_self_iff_true, decide_True, decide_False, Bool.toNat_true,
        Bool.toNat_false, ↓reduceIte] <;> omega
  | delete r => simp only [Thread.step]; split_ifs <;> rfl
  | releaseTotal c | accepted c => cases c <;> rfl
  | refused | released => rfl

theorem lookup_mem [DecidableEq κ] {map : List (κ × Nat)} {ip : κ} {ref : Nat}
    (h : map.lookup ip = some ref) :
    (ip, ref) ∈ map := by
  obtain ⟨before, after, rfl, -⟩ := List.lookup_eq_some_iff.mp h
  simp

/-- A step allocates the counters the goroutine and the map then point at. -/
theorem Thread.step_allocated [DecidableEq κ] (cfg : Config) (ip : κ) (trusted : Bool) (pc : Pc)
    (sh : Shared κ) (held : ∀ r ∈ pc.refs, r < sh.counters.length)
    (mapped : ∀ e ∈ sh.perIPConnections, e.2 < sh.counters.length) :
    let next := Thread.step cfg ip trusted pc sh
    sh.counters.length ≤ next.2.counters.length ∧
      (∀ r ∈ next.1.refs, r < next.2.counters.length) ∧
      ∀ e ∈ next.2.perIPConnections, e.2 < next.2.counters.length := by
  have own (r : Nat) (pc' : Pc) (h : pc'.refs = [r]) (hr : r ∈ pc.refs) :
      ∀ r' ∈ pc'.refs, r' < sh.counters.length := by
    simpa [h] using held r hr
  cases pc with
  | start => simp only [Thread.step]; split_ifs <;> exact ⟨le_rfl, by simp [Pc.refs], mapped⟩
  | lookup =>
    simp only [Thread.step]
    split
    · exact ⟨le_rfl, by simpa [Pc.refs] using mapped _ (lookup_mem ‹_›), mapped⟩
    · exact ⟨le_rfl, by simp [Pc.refs], mapped⟩
  | check r => simp only [Thread.step]; split_ifs <;> exact ⟨le_rfl, by simp [Pc.refs], mapped⟩
  | addTotal => simp only [Thread.step]; split <;> exact ⟨le_rfl, by simp [Pc.refs], mapped⟩
  | register =>
    simp only [Thread.step]
    split
    · exact ⟨le_rfl, by simpa [Pc.refs] using mapped _ (lookup_mem ‹_›), mapped⟩
    · refine ⟨by simp, by simp [Pc.refs], ?_⟩
      simp only [List.mem_cons, List.length_append, List.length_singleton]
      rintro e (rfl | he)
      · simp
      · exact Nat.lt_succ_of_lt (mapped e he)
  | addPerIP r =>
    simp only [Thread.step, Shared.addCounter_length]
    exact ⟨le_rfl, own r (.accepted (some r)) rfl (by simp [Pc.refs]), mapped⟩
  | releaseTotal c =>
    cases c with
    | none => exact ⟨le_rfl, by simp [Thread.step, Pc.refs], mapped⟩
    | some r => exact ⟨le_rfl, own r (.releasePerIP r) rfl (by simp [Pc.refs]), mapped⟩
  | releasePerIP r =>
    simp only [Thread.step, Shared.addCounter_length]
    split_ifs
    · exact ⟨le_rfl, own r (.delete r) rfl (by simp [Pc.refs]), mapped⟩
    · exact ⟨le_rfl, by simp [Pc.refs], mapped⟩
  | delete r =>
    simp only [Thread.step]
    split_ifs
    · exact ⟨le_rfl, by simp [Pc.refs], fun e he => mapped e (List.mem_of_mem_filter he)⟩
    · exact ⟨le_rfl, by simp [Pc.refs], mapped⟩
  | accepted c => cases c <;> exact ⟨le_rfl, held, mapped⟩
  | refused | released => exact ⟨le_rfl, held, mapped⟩

/-! ### Over every interleaving -/

theorem countP_set_add {α : Type} (p : α → Bool) {l : List α} {i : Nat} (h : i < l.length)
    (a : α) : (l.set i a).countP p + (p l[i]).toNat = l.countP p + (p a).toNat := by
  have le : (p l[i]).toNat ≤ l.countP p := by
    cases hi : p l[i]
    · exact Nat.zero_le _
    · exact List.countP_pos_iff.mpr ⟨_, List.getElem_mem h, hi⟩
  rw [List.countP_set p l i a h]
  revert le
  cases p l[i] <;> cases p a <;>
    simp only [Bool.toNat_false, Bool.toNat_true, Bool.false_eq_true, ↓reduceIte] <;> omega

/-- The atomic counters count exactly, and every counter address in use has been allocated. -/
structure CountsExact (l : Limiter κ) : Prop where
  total : l.shared.currentTotal = l.threads.countP (·.pc.holdsTotal)
  counter : ∀ ref, l.shared.counter ref = l.threads.countP (·.pc.holdsCounter ref)
  mapped : ∀ e ∈ l.shared.perIPConnections, e.2 < l.shared.counters.length
  held : ∀ t ∈ l.threads, ∀ r ∈ t.pc.refs, r < l.shared.counters.length

namespace CountsExact

theorem initial (conns : List (κ × Bool)) : CountsExact (Limiter.initial conns) where
  total := by simp [Limiter.initial, List.countP_map, Function.comp_def, Pc.holdsTotal]
  counter ref := by
    simp [Limiter.initial, List.countP_map, Function.comp_def, Shared.counter, Pc.holdsCounter]
  mapped := by simp [Limiter.initial]
  held := by
    simp only [Limiter.initial, List.mem_map]
    rintro _ ⟨_, -, rfl⟩
    simp [Pc.refs]

theorem move [DecidableEq κ] {cfg : Config} {l : Limiter κ} (inv : CountsExact l) (m : Move) :
    CountsExact (l.move cfg m) := by
  cases m with
  | cleanup =>
    exact ⟨inv.total, inv.counter, fun e he => inv.mapped e (List.mem_of_mem_filter he),
      inv.held⟩
  | step i =>
    simp only [Limiter.move, List.get?_eq_getElem?]
    split
    · rename_i t ht
      obtain ⟨hi, rfl⟩ := List.getElem?_eq_some_iff.mp ht
      have heldT := inv.held _ (List.getElem_mem hi)
      obtain ⟨grew, heldNext, mappedNext⟩ :=
        Thread.step_allocated cfg l.threads[i].ip l.threads[i].trusted l.threads[i].pc l.shared
          heldT
          inv.mapped
      refine ⟨?_, fun ref => ?_, mappedNext, ?_⟩
      · have stepped := Thread.step_total cfg l.threads[i].ip l.threads[i].trusted l.threads[i].pc
          l.shared
        have counted := countP_set_add (·.pc.holdsTotal) hi { l.threads[i] with
          pc := (Thread.step cfg l.threads[i].ip l.threads[i].trusted l.threads[i].pc l.shared).1 }
        rw [inv.total] at stepped
        dsimp only at counted ⊢
        omega
      · have stepped := Thread.step_counter cfg l.threads[i].ip l.threads[i].trusted
          l.threads[i].pc l.shared heldT ref
        have counted := countP_set_add (·.pc.holdsCounter ref) hi { l.threads[i] with
          pc := (Thread.step cfg l.threads[i].ip l.threads[i].trusted l.threads[i].pc l.shared).1 }
        rw [inv.counter ref] at stepped
        dsimp only at counted ⊢
        omega
      · intro t' ht'
        rcases List.mem_or_eq_of_mem_set ht' with old | rfl
        · exact fun r hr => lt_of_lt_of_le (inv.held t' old r hr) grew
        · exact heldNext
    · exact inv

theorem run [DecidableEq κ] {cfg : Config} {l : Limiter κ} (inv : CountsExact l)
    (moves : List Move) :
    CountsExact (l.run cfg moves) := by
  induction moves generalizing l with
  | nil => exact inv
  | cons m moves ih => exact ih (inv.move m)

end CountsExact

/-- A live connection still holds its part of `currentTotal`. -/
theorem liveCount_le_total {l : Limiter κ} (inv : CountsExact l) :
    (l.liveCount : Int) ≤ l.shared.currentTotal := by
  rw [inv.total]
  exact_mod_cast List.countP_mono_left fun t _ live => by
    revert live; cases t.pc <;> simp [Pc.live, Pc.holdsTotal]

/-- Over every interleaving from a fresh limiter, of connections from trusted networks and from
elsewhere alike, `currentTotal` and every per-IP counter count exactly the goroutines between
their `Add(1)` and `Add(-1)`, and `currentTotal` is at least the number of live connections. -/
theorem counters_exact_over_interleavings [DecidableEq κ] (cfg : Config) (conns : List (κ × Bool))
    (moves : List Move) :
    CountsExact (Limiter.run cfg (Limiter.initial conns) moves) ∧
      ((Limiter.run cfg (Limiter.initial conns) moves).liveCount : Int) ≤
        (Limiter.run cfg (Limiter.initial conns) moves).shared.currentTotal :=
  have inv := (CountsExact.initial conns).run moves
  ⟨inv, liveCount_le_total inv⟩

/-! ### The limits do not hold -/

/-- A limit of one connection in total, none per IP. -/
def oneConnection : Config :=
  ⟨1, 0, []⟩

/-- A limit of one connection per IP, none in total, and no trusted network. -/
def oneConnectionPerIP : Config :=
  ⟨0, 1, []⟩

/-- Two `Accept`s each load `currentTotal` before either adds 1 to it. -/
def bothPassTheCheck : List Move :=
  [.step 0, .step 1, .step 0, .step 1]

/-- Goroutine 0 accepts, is released, and its counter comes down to zero; goroutine 1 then passes
`CanAccept` and takes the same counter from the map; goroutine 0 deletes the entry before
goroutine 1 adds to the counter; goroutine 2 finds no entry and creates a fresh one. -/
def entryDeletedUnderAccept : List Move :=
  List.replicate 8 (.step 0) ++ List.replicate 5 (.step 1) ++ [.step 0, .step 1] ++
    List.replicate 5 (.step 2)

/-- With a limit of one connection, two connections are live; with a limit of one per IP, two
connections from one IP are live while its entry reads one. -/
theorem concurrent_accepts_exceed_limits :
    oneConnection.maxConnections <
        ((Limiter.run oneConnection (Limiter.initial [(1, false), (2, false)])
          bothPassTheCheck).liveCount : Int) ∧
      oneConnectionPerIP.maxPerIP <
        ((Limiter.run oneConnectionPerIP (Limiter.initial [(1, false), (1, false), (1, false)])
          entryDeletedUnderAccept).liveFrom 1 : Int) ∧
      (Limiter.run oneConnectionPerIP (Limiter.initial [(1, false), (1, false), (1, false)])
          entryDeletedUnderAccept).liveFrom 1 = 2 ∧
      (Limiter.run oneConnectionPerIP (Limiter.initial [(1, false), (1, false), (1, false)])
          entryDeletedUnderAccept).shared.entry 1 = some 1 := by
  decide

end Sora.Server
