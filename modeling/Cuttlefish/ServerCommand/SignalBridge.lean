import Mathlib.Data.List.Basic

/-!
# The signal bridge's slot protocol

`signal_pipe_write_end` and the three functions that exchange it,
`server_command/start.cpp:59–111`: `HandleInterruptSignals` publishes the pipe's fd,
`InterruptHandler` borrows it to write the signal number, and
`StopHandlingInterruptSignals` takes it back and closes it, unless a handler holds it, in
which case the handler closes it. Every atomic exchange, write and close is one step;
the handler executions are threads of their own, so any interleaving of their steps is a
run (a nested execution on one thread is the interleaving where it runs between two
steps of the one it interrupted).

Safety holds on every run: the published fd is never used after its close and closed
at most once (`safeInv_run`). Completion does not: two overlapping handler executions
can leave `CLOSED_FD` in the slot with the fd closed by no one (`overlap_leaks_fd`).
-/

namespace Cuttlefish.ServerCommand

/-- `CLOSED_FD`, line 59. -/
def closedFd : Int := -1

/-- `IN_USE_FD`, line 60. -/
def inUseFd : Int := -2

/-- Where one execution of `InterruptHandler` (lines 69–84) stands; the argument is its
local `fd`. -/
inductive HandlerPc where
  /-- Before `fd = exchange(IN_USE_FD)`, line 70. -/
  | entry
  /-- Before the write of line 73, made when `fd >= 0`. -/
  | write (fd : Int)
  /-- Before `fd = exchange(fd)`, line 75. -/
  | restore (fd : Int)
  /-- Line 75 returned another value than `IN_USE_FD`: before `exchange(CLOSED_FD)`, line 79. -/
  | reclaim
  /-- Before the close of lines 80–82, made when `fd >= 0`. -/
  | close (fd : Int)
  | done
  deriving DecidableEq, Repr

/-- Where `HandleInterruptSignals` (lines 86–100) stands. -/
inductive ArmPc where
  | idle
  /-- Line 95 published the fd and the `CHECK` of line 96 passed. -/
  | published
  /-- Line 98 installed `InterruptHandler` for SIGINT, SIGHUP and SIGTERM. -/
  | installed
  deriving DecidableEq, Repr

/-- Where `StopHandlingInterruptSignals` (lines 102–111) stands. -/
inductive DisarmPc where
  | idle
  /-- Line 103 restored the default dispositions: before `exchange(CLOSED_FD)`, line 104. -/
  | exchange
  /-- Before the close of lines 105–107, made when `fd >= 0`. -/
  | close (fd : Int)
  | done
  deriving DecidableEq, Repr

/-- A use of a non-negative fd. -/
inductive FdUse where
  | write (fd : Int)
  | close (fd : Int)
  deriving DecidableEq, Repr

/-- The bridge: the atomic slot, the three kinds of thread, and every use of an fd so far. -/
structure Bridge where
  slot : Int
  arm : ArmPc
  handlers : List HandlerPc
  disarm : DisarmPc
  log : List FdUse
  deriving DecidableEq, Repr

/-- Before `HandleInterruptSignals`: the slot holds `CLOSED_FD` (line 66). -/
def Bridge.init : Bridge := ⟨closedFd, .idle, [], .idle, []⟩

/-- The atomic steps of the protocol. -/
inductive Action where
  /-- `HandleInterruptSignals` takes its next step. -/
  | arm
  /-- A signal is delivered while `InterruptHandler` is installed: a new execution starts. -/
  | signal
  /-- Handler execution `i` takes its next step. -/
  | handler (i : Nat)
  /-- `StopHandlingInterruptSignals` takes its next step. -/
  | disarm
  deriving DecidableEq, Repr

/-- Log a use of `fd` when it is a descriptor (`fd >= 0`). -/
def logUse (log : List FdUse) (use : Int → FdUse) (fd : Int) : List FdUse :=
  if 0 ≤ fd then log ++ [use fd] else log

/-- One step of `InterruptHandler`: the new slot, the new log, the next pc. -/
def handlerStep (slot : Int) (log : List FdUse) :
    HandlerPc → Option (Int × List FdUse × HandlerPc)
  | .entry => some (inUseFd, log, .write slot)
  | .write fd => some (slot, logUse log .write fd, .restore fd)
  | .restore fd => some (fd, log, if slot = inUseFd then .done else .reclaim)
  | .reclaim => some (closedFd, log, .close slot)
  | .close fd => some (slot, logUse log .close fd, .done)
  | .done => none

/-- One step of the bridge publishing `fd`; `none` where the action is not enabled. -/
def step (fd : Int) (s : Bridge) : Action → Option Bridge
  | .arm =>
    match s.arm with
    | .idle => if s.slot = closedFd then some { s with slot := fd, arm := .published } else none
    | .published => some { s with arm := .installed }
    | .installed => none
  | .signal =>
    if s.arm = .installed ∧ s.disarm = .idle then
      some { s with handlers := s.handlers ++ [.entry] }
    else none
  | .handler i =>
    match s.handlers[i]? with
    | none => none
    | some pc => (handlerStep s.slot s.log pc).map fun (slot, log, pc') =>
        { s with slot := slot, log := log, handlers := s.handlers.set i pc' }
  | .disarm =>
    match s.disarm with
    | .idle => if s.arm = .installed then some { s with disarm := .exchange } else none
    | .exchange => some { s with slot := closedFd, disarm := .close s.slot }
    | .close fd' => some { s with log := logUse s.log .close fd', disarm := .done }
    | .done => none

/-- A run: the actions in order, each enabled where it is taken. -/
def run (fd : Int) (s : Bridge) : List Action → Option Bridge
  | [] => some s
  | a :: rest => (step fd s a).bind (run fd · rest)

/-- The teardown and every handler execution have finished. -/
def Bridge.Finished (s : Bridge) : Prop := s.disarm = .done ∧ ∀ pc ∈ s.handlers, pc = .done

instance (s : Bridge) : Decidable s.Finished :=
  inferInstanceAs (Decidable (s.disarm = .done ∧ ∀ pc ∈ s.handlers, pc = .done))

/-- The number of closes in a log. -/
def closeCount (log : List FdUse) : Nat := log.countP fun | .close _ => true | .write _ => false

/-! ### Completion fails for overlapping handlers -/

/-- SIGINT and SIGTERM handled on two threads: the first handler borrows the fd and puts
it back while the second holds `IN_USE_FD`; the second then swaps the fd out at line 75,
reads it as a teardown, and at line 79 gets back only its own `IN_USE_FD`. -/
def overlapTrace : List Action :=
  [.arm, .arm, .signal, .signal, .handler 0, .handler 1, .handler 0, .handler 0,
    .handler 1, .handler 1, .handler 1, .handler 1, .disarm, .disarm, .disarm]

/-- With the pipe's fd 3 published, after the overlapping run every thread has finished
and the slot is `CLOSED_FD`, but fd 3 was written once and never closed. -/
theorem overlap_leaks_fd :
    run 3 .init overlapTrace =
        some ⟨closedFd, .installed, [.done, .done], .done, [.write 3]⟩ ∧
      Bridge.Finished ⟨closedFd, .installed, [.done, .done], .done, [.write 3]⟩ ∧
      closeCount [.write 3] = 0 := by
  decide

/-! ### Safety on every run -/

/-- No use follows a close: at most one close, and nothing after it. -/
def UsesEndAtClose : List FdUse → Prop
  | [] => True
  | .close _ :: rest => rest = []
  | .write _ :: rest => UsesEndAtClose rest

/-- The three values the slot and the locals carry: the published fd and the sentinels. -/
def Known (fd v : Int) : Prop := v = fd ∨ v = inUseFd ∨ v = closedFd

/-- A handler's local is one of the three values. -/
def HandlerPc.Known (fd : Int) : HandlerPc → Prop
  | .write v | .restore v | .close v => ServerCommand.Known fd v
  | _ => True

/-- Whether a handler's local is the published fd. -/
def HandlerPc.holds (fd : Int) : HandlerPc → Bool
  | .write v | .restore v | .close v => v == fd
  | _ => false

/-- Whether the teardown's local is the published fd. -/
def DisarmPc.holds (fd : Int) : DisarmPc → Bool
  | .close v => v == fd
  | _ => false

/-- How many places hold the published fd: the slot, the handlers' locals and the
teardown's local. Only a holder writes or closes it; an exchange moves it, or drops it. -/
def Bridge.holders (fd : Int) (s : Bridge) : Nat :=
  (if s.slot = fd then 1 else 0) + s.handlers.countP (HandlerPc.holds fd) +
    (if s.disarm.holds fd then 1 else 0)

/-- The invariant of every run: the values are known, the fd has at most one token
(a holder, or its close), and the log is writes of the fd followed by at most one close. -/
structure SafeInv (fd : Int) (s : Bridge) : Prop where
  slot : Known fd s.slot
  handlers : ∀ pc ∈ s.handlers, pc.Known fd
  disarm : ∀ v, s.disarm = .close v → Known fd v
  tokens : s.holders fd + closeCount s.log ≤ 1
  uses : UsesEndAtClose s.log
  logFd : ∀ u ∈ s.log, u = .write fd ∨ u = .close fd
  idle : s.arm = .idle → s.slot = closedFd ∧ s.handlers = [] ∧ s.disarm = .idle ∧ s.log = []

theorem safeInv_init {fd : Int} (hfd : 0 ≤ fd) : SafeInv fd .init := by
  refine ⟨.inr (.inr rfl), by simp [Bridge.init], by simp [Bridge.init], ?_, trivial,
    by simp [Bridge.init], fun _ => ⟨rfl, rfl, rfl, rfl⟩⟩
  have : closedFd ≠ fd := by unfold closedFd; omega
  simp [Bridge.init, Bridge.holders, closeCount, DisarmPc.holds, this]

/-- A known value that is a descriptor is the published fd. -/
theorem Known.eq_of_nonneg {fd v : Int} (hv : Known fd v) (h : 0 ≤ v) : v = fd := by
  rcases hv with rfl | rfl | rfl
  · rfl
  · exact absurd h (by decide)
  · exact absurd h (by decide)

/-- The sentinels are not the published fd. -/
theorem Known.ne_of_neg {fd : Int} (hfd : 0 ≤ fd) : inUseFd ≠ fd ∧ closedFd ≠ fd := by
  unfold inUseFd closedFd; omega

theorem closeCount_logUse_write (log : List FdUse) (v : Int) :
    closeCount (logUse log .write v) = closeCount log := by
  unfold logUse; split <;> simp [closeCount]

theorem closeCount_logUse_close (log : List FdUse) (v : Int) :
    closeCount (logUse log .close v) = closeCount log + (if 0 ≤ v then 1 else 0) := by
  unfold logUse; split <;> simp [closeCount, *]

/-- A known local logs a use of the published fd, or nothing. -/
theorem logUse_of_known {fd v : Int} (hv : Known fd v) (log : List FdUse) (use : Int → FdUse) :
    logUse log use v = log ∨ v = fd ∧ logUse log use v = log ++ [use fd] := by
  unfold logUse
  split
  · next h => obtain rfl := Known.eq_of_nonneg hv h; exact .inr ⟨rfl, rfl⟩
  · exact .inl rfl

/-- One handler step moves, drops or consumes the fd's token, never makes one, and only a
holder writes or closes. -/
theorem handlerStep_spec {fd slot slot' : Int} {log log' : List FdUse} {pc pc' : HandlerPc}
    (hfd : 0 ≤ fd) (hslot : Known fd slot) (hpc : pc.Known fd)
    (hstep : handlerStep slot log pc = some (slot', log', pc')) :
    Known fd slot' ∧ pc'.Known fd ∧
    (if slot' = fd then 1 else 0) + (if pc'.holds fd then 1 else 0) + closeCount log' ≤
      (if slot = fd then 1 else 0) + (if pc.holds fd then 1 else 0) + closeCount log ∧
    (log' = log ∨
      pc.holds fd = true ∧ (log' = log ++ [.write fd] ∨ log' = log ++ [.close fd])) := by
  obtain ⟨hin, hcl⟩ := Known.ne_of_neg hfd
  cases pc with
  | entry =>
    cases hstep
    refine ⟨.inr (.inl rfl), hslot, ?_, .inl rfl⟩
    by_cases hs : slot = fd <;> simp [HandlerPc.holds, hs, hin]
  | write v =>
    cases hstep
    rcases logUse_of_known hpc log .write with h | ⟨rfl, h⟩ <;> rw [h]
    · exact ⟨hslot, hpc, by simp [HandlerPc.holds], .inl rfl⟩
    · exact ⟨hslot, hpc, by simp [HandlerPc.holds, closeCount],
        .inr ⟨by simp [HandlerPc.holds], .inl rfl⟩⟩
  | restore v =>
    simp only [handlerStep, Option.some.injEq, Prod.mk.injEq] at hstep
    obtain ⟨rfl, rfl, rfl⟩ := hstep
    have hh : (if slot = inUseFd then HandlerPc.done else .reclaim).holds fd = false := by
      split <;> rfl
    refine ⟨hpc, by split <;> trivial, ?_, .inl rfl⟩
    rw [hh]
    by_cases hv : v = fd <;> by_cases hs : slot = fd <;> simp [HandlerPc.holds, hv, hs]
  | reclaim =>
    cases hstep
    refine ⟨.inr (.inr rfl), hslot, ?_, .inl rfl⟩
    by_cases hs : slot = fd <;> simp [HandlerPc.holds, hs, hcl]
  | close v =>
    cases hstep
    rcases logUse_of_known hpc log .close with h | ⟨rfl, h⟩ <;> rw [h]
    · exact ⟨hslot, trivial, by simp [HandlerPc.holds], .inl rfl⟩
    · exact ⟨hslot, trivial, by simp [HandlerPc.holds, closeCount]; omega,
        .inr ⟨by simp [HandlerPc.holds], .inr rfl⟩⟩
  | done => cases hstep

theorem usesEndAtClose_append {log : List FdUse} (h : closeCount log = 0) (u : FdUse) :
    UsesEndAtClose (log ++ [u]) := by
  induction log with
  | nil => cases u <;> simp [UsesEndAtClose]
  | cons w rest ih =>
    cases w with
    | write v => exact ih (by simpa [closeCount] using h)
    | close v => simp [closeCount] at h

/-- While someone holds the fd, it has not been closed. -/
theorem closeCount_eq_zero {fd : Int} {s : Bridge} (hi : SafeInv fd s) (hh : 1 ≤ s.holders fd) :
    closeCount s.log = 0 := by
  have := hi.tokens; omega

/-- Arming publishes the fd into the closed slot, then installs the handler. -/
theorem safeInv_arm {fd : Int} {s s' : Bridge} (hi : SafeInv fd s)
    (hstep : step fd s .arm = some s') : SafeInv fd s' := by
  simp only [step] at hstep
  split at hstep
  · next harm =>
    split at hstep
    · cases hstep
      obtain ⟨hs, hh, hd, hl⟩ := hi.idle harm
      refine ⟨.inl rfl, by simp [hh], by simp [hd], ?_, by simp [hl, UsesEndAtClose],
        by simp [hl], nofun⟩
      simp [Bridge.holders, hh, hd, hl, closeCount, DisarmPc.holds]
    · cases hstep
  · cases hstep
    exact ⟨hi.slot, hi.handlers, hi.disarm, hi.tokens, hi.uses, hi.logFd, nofun⟩
  · cases hstep

/-- A signal starts a handler execution holding no token. -/
theorem safeInv_signal {fd : Int} {s s' : Bridge} (hi : SafeInv fd s)
    (hstep : step fd s .signal = some s') : SafeInv fd s' := by
  simp only [step] at hstep
  split at hstep
  · next hguard =>
    cases hstep
    refine ⟨hi.slot, ?_, hi.disarm, ?_, hi.uses, hi.logFd,
      fun h => absurd (h.symm.trans hguard.1) nofun⟩
    · intro pc hpc
      rcases List.mem_append.mp hpc with hpc | hpc
      · exact hi.handlers pc hpc
      · simp at hpc; subst hpc; trivial
    · have := hi.tokens
      simp only [Bridge.holders, List.countP_append] at this ⊢
      simp [HandlerPc.holds]
      omega
  · cases hstep

/-- One handler step keeps the invariant. -/
theorem safeInv_handler {fd : Int} (hfd : 0 ≤ fd) {s s' : Bridge} {i : Nat} (hi : SafeInv fd s)
    (hstep : step fd s (.handler i) = some s') : SafeInv fd s' := by
  simp only [step] at hstep
  split at hstep
  · cases hstep
  · next pc hpc =>
    obtain ⟨⟨slot', log', pc'⟩, hhs, rfl⟩ := Option.map_eq_some'.mp hstep
    obtain ⟨hlt, hget⟩ := List.getElem?_eq_some_iff.mp hpc
    have hmem : pc ∈ s.handlers := hget ▸ List.getElem_mem hlt
    obtain ⟨hk, hk', htok, hlog⟩ := handlerStep_spec hfd hi.slot (hi.handlers pc hmem) hhs
    have hcount := List.countP_set (HandlerPc.holds fd) s.handlers i pc' hlt
    have hle := List.boole_getElem_le_countP (HandlerPc.holds fd) s.handlers i hlt
    rw [hget] at hcount hle
    have htokens := hi.tokens
    simp only [Bridge.holders] at htokens
    refine ⟨hk, ?_, hi.disarm, ?_, ?_, ?_, ?_⟩
    · intro q hq
      rcases List.mem_or_eq_of_mem_set hq with hq | rfl
      · exact hi.handlers q hq
      · exact hk'
    · simp only [Bridge.holders, hcount]
      omega
    · rcases hlog with rfl | ⟨hholds, rfl | rfl⟩
      · exact hi.uses
      all_goals
        refine usesEndAtClose_append (closeCount_eq_zero hi ?_) _
        have := List.countP_pos_iff.mpr ⟨pc, hmem, hholds⟩
        simp only [Bridge.holders]
        omega
    · rcases hlog with rfl | ⟨-, rfl | rfl⟩
      · exact hi.logFd
      all_goals exact List.forall_mem_append.2 ⟨hi.logFd, by simp⟩
    · intro harm
      simp [(hi.idle harm).2.1] at hpc

/-- A teardown that has started means arming has. -/
theorem SafeInv.arm_ne_idle {fd : Int} {s : Bridge} (hi : SafeInv fd s)
    (hd : s.disarm ≠ .idle) : s.arm ≠ .idle :=
  fun h => hd (hi.idle h).2.2.1

/-- One teardown step keeps the invariant. -/
theorem safeInv_disarm {fd : Int} (hfd : 0 ≤ fd) {s s' : Bridge} (hi : SafeInv fd s)
    (hstep : step fd s .disarm = some s') : SafeInv fd s' := by
  obtain ⟨-, hcl⟩ := Known.ne_of_neg hfd
  simp only [step] at hstep
  split at hstep
  · next hd =>
    split at hstep
    · next harm =>
      cases hstep
      exact ⟨hi.slot, hi.handlers, nofun,
        by simpa [Bridge.holders, hd, DisarmPc.holds] using hi.tokens,
        hi.uses, hi.logFd, fun h => absurd (h.symm.trans harm) nofun⟩
    · cases hstep
  · next hd =>
    cases hstep
    refine ⟨.inr (.inr rfl), hi.handlers, fun v hv => by cases hv; exact hi.slot, ?_, hi.uses,
      hi.logFd, fun h => absurd h (hi.arm_ne_idle (by simp [hd]))⟩
    have := hi.tokens
    simp only [Bridge.holders, hd, DisarmPc.holds] at this ⊢
    by_cases hs : s.slot = fd <;> simp [hs, hcl] at this ⊢ <;> omega
  · next v hd =>
    cases hstep
    have hbusy := hi.arm_ne_idle (by simp [hd])
    have htok := hi.tokens
    simp only [Bridge.holders, hd, DisarmPc.holds] at htok
    rcases logUse_of_known (hi.disarm v hd) s.log .close with h | ⟨rfl, h⟩ <;> rw [h]
    · refine ⟨hi.slot, hi.handlers, nofun, ?_, hi.uses, hi.logFd, fun h => absurd h hbusy⟩
      simp [Bridge.holders, DisarmPc.holds] at htok ⊢
      omega
    · have hfree : closeCount s.log = 0 := by simp at htok; omega
      refine ⟨hi.slot, hi.handlers, nofun, ?_, usesEndAtClose_append hfree _,
        List.forall_mem_append.2 ⟨hi.logFd, by simp⟩, fun h => absurd h hbusy⟩
      simp [Bridge.holders, DisarmPc.holds, closeCount, hfree] at htok ⊢
      omega
  · cases hstep

/-- Every step keeps the invariant. -/
theorem safeInv_step {fd : Int} (hfd : 0 ≤ fd) {s s' : Bridge} {a : Action} (hi : SafeInv fd s)
    (hstep : step fd s a = some s') : SafeInv fd s' := by
  cases a with
  | arm => exact safeInv_arm hi hstep
  | signal => exact safeInv_signal hi hstep
  | handler i => exact safeInv_handler hfd hi hstep
  | disarm => exact safeInv_disarm hfd hi hstep

/-- The invariant holds after every run from a state where it holds. -/
theorem safeInv_run {fd : Int} (hfd : 0 ≤ fd) {actions : List Action} {s s' : Bridge}
    (hi : SafeInv fd s) (hrun : run fd s actions = some s') : SafeInv fd s' := by
  induction actions generalizing s with
  | nil => cases hrun; exact hi
  | cons a rest ih =>
    obtain ⟨s₁, h₁, hrest⟩ := Option.bind_eq_some.mp hrun
    exact ih (safeInv_step hfd hi h₁) hrest

/-- On every interleaving of one arm, any handler executions and one teardown, the published
fd is never written or closed after its close, and it is closed at most once. -/
theorem run_no_use_after_close {fd : Int} (hfd : 0 ≤ fd) {actions : List Action} {s : Bridge}
    (hrun : run fd .init actions = some s) :
    UsesEndAtClose s.log ∧ closeCount s.log ≤ 1 ∧
      ∀ u ∈ s.log, u = .write fd ∨ u = .close fd := by
  have hi := safeInv_run hfd (safeInv_init hfd) hrun
  exact ⟨hi.uses, by have := hi.tokens; omega, hi.logFd⟩

/-- A handler that borrowed fd 3 races the teardown: the teardown finds `IN_USE_FD`, and
the handler reclaims and closes the fd after writing it. -/
theorem run_no_use_after_close_race :
    run 3 .init [.arm, .arm, .signal, .handler 0, .handler 0, .disarm, .disarm, .handler 0,
        .handler 0, .handler 0, .disarm] =
        some ⟨closedFd, .installed, [.done], .done, [.write 3, .close 3]⟩ ∧
      UsesEndAtClose [.write 3, .close 3] ∧ closeCount [.write 3, .close 3] ≤ 1 ∧
      ∀ u ∈ [FdUse.write 3, .close 3], u = .write 3 ∨ u = .close 3 :=
  have hrun : run 3 .init [.arm, .arm, .signal, .handler 0, .handler 0, .disarm, .disarm,
      .handler 0, .handler 0, .handler 0, .disarm] =
      some ⟨closedFd, .installed, [.done], .done, [.write 3, .close 3]⟩ := by decide
  ⟨hrun, run_no_use_after_close (by decide) hrun⟩

end Cuttlefish.ServerCommand
