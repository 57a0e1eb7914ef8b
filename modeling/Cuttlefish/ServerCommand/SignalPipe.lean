import Mathlib.Data.List.Basic
import Cuttlefish.ServerCommand.SignalBridge

/-!
# The signal pipe's two ends

`HandleInterruptSignals` (`server_command/start.cpp:86–100`) creates a pipe, publishes one
of its descriptors for `InterruptHandler` to write to, and returns the other to the
interrupter thread of `CvdStartCommandHandler::Handle` (lines 716–734), which reads it.
The kernel side is `pipe(2)`: `fds[0]` is the read end and `fds[1]` the write end; a
`read` of a descriptor not open for reading and a `write` of one not open for writing fail
with `EBADF`. The code publishes `fds[0]` and returns `fds[1]`, so the interrupter's first
read fails and it leaves through its error branch (`interrupter_reads_write_end`).
-/

namespace Cuttlefish.ServerCommand

/-- The end of a pipe a descriptor refers to. -/
inductive PipeEnd where
  | read
  | write
  deriving DecidableEq, Repr

/-- An open descriptor: its number, its pipe and its end. -/
structure OpenFd where
  fd : Int
  pipe : Nat
  side : PipeEnd
  deriving DecidableEq, Repr

/-- The part of the kernel the bridge touches: the open descriptors, the data buffered in
each pipe, and the next descriptor number `pipe2` hands out. -/
structure Kernel where
  table : List OpenFd
  buffers : List (List Int)
  nextFd : Int
  deriving DecidableEq, Repr

/-- The descriptor `fd`, if open. -/
def Kernel.lookup (k : Kernel) (fd : Int) : Option OpenFd := k.table.find? (·.fd == fd)

/-- Some descriptor is open on `side` of pipe `p`. -/
def Kernel.isOpen (k : Kernel) (p : Nat) (side : PipeEnd) : Bool :=
  k.table.any fun o => o.pipe == p && o.side == side

/-- `pipe2(fds, O_CLOEXEC)`: a new pipe, `fds[0]` its read end and `fds[1]` its write end. -/
def pipe2 (k : Kernel) : Kernel × Int × Int :=
  let p := k.buffers.length
  (⟨⟨k.nextFd, p, .read⟩ :: ⟨k.nextFd + 1, p, .write⟩ :: k.table, k.buffers ++ [[]],
      k.nextFd + 2⟩,
    k.nextFd, k.nextFd + 1)

/-- What one `read(fd, &signal, sizeof(signal))` returns. -/
inductive ReadResult where
  /-- `res > 0`: a signal number. -/
  | data (signal : Int)
  /-- `res == 0`: every write end is closed. -/
  | eof
  /-- `res < 0`, here `EBADF`. -/
  | error
  /-- The pipe is empty and a write end is open: the call waits. -/
  | blocks
  deriving DecidableEq, Repr

/-- `read(2)` of one signal number. -/
def sysRead (k : Kernel) (fd : Int) : ReadResult × Kernel :=
  match k.lookup fd with
  | some ⟨_, p, .read⟩ =>
    match k.buffers[p]? with
    | some (signal :: rest) => (.data signal, { k with buffers := k.buffers.set p rest })
    | _ => (if k.isOpen p .write then .blocks else .eof, k)
  | _ => (.error, k)

/-- `write(2)` of one signal number: whether it was written. -/
def sysWrite (k : Kernel) (fd signal : Int) : Bool × Kernel :=
  match k.lookup fd with
  | some ⟨_, p, .write⟩ =>
    if k.isOpen p .read then
      (true, { k with buffers := k.buffers.set p ((k.buffers[p]?.getD []) ++ [signal]) })
    else (false, k)
  | _ => (false, k)

/-- `HandleInterruptSignals`, lines 86–100: make the pipe, publish `fds[0]` in the slot
(the `CHECK` of line 96 wants it empty), return `fds[1]`. `fcntl` sets a flag no result
below depends on. -/
def handleInterruptSignals (k : Kernel) (slot : Int) : Option (Kernel × Int × Int) :=
  let (k', fds0, fds1) := pipe2 k
  if slot = closedFd then some (k', fds0, fds1) else none

/-- How one turn of the interrupter thread's loop (lines 718–733) ends. -/
inductive InterrupterTurn where
  /-- `res > 0`: it calls `subprocess_waiter_.Interrupt()` and reads again. -/
  | interrupt
  /-- `res == 0`: it closes its descriptor and returns. -/
  | closeAndExit
  /-- `res < 0`: it logs and returns, its descriptor still open. -/
  | errorExit
  /-- The read waits. -/
  | waits
  deriving DecidableEq, Repr

/-- One turn of the interrupter thread on its descriptor. -/
def interrupterTurn (k : Kernel) (signalsFd : Int) : InterrupterTurn :=
  match (sysRead k signalsFd).1 with
  | .data _ => .interrupt
  | .eof => .closeAndExit
  | .error => .errorExit
  | .blocks => .waits

@[simp] theorem pipe2_fds (k : Kernel) : (pipe2 k).2 = (k.nextFd, k.nextFd + 1) := rfl

theorem lookup_pipe2_read (k : Kernel) :
    (pipe2 k).1.lookup k.nextFd = some ⟨k.nextFd, k.buffers.length, .read⟩ := by
  simp [pipe2, Kernel.lookup]

theorem lookup_pipe2_write (k : Kernel) :
    (pipe2 k).1.lookup (k.nextFd + 1) = some ⟨k.nextFd + 1, k.buffers.length, .write⟩ := by
  simp [pipe2, Kernel.lookup, show k.nextFd ≠ k.nextFd + 1 by omega]

/-- For every kernel: `HandleInterruptSignals` publishes the read end and returns the write
end, so the interrupter's first read fails with `EBADF` and it leaves through its error
branch without closing its descriptor, and every write `InterruptHandler` makes to the
published descriptor fails. -/
theorem interrupter_reads_write_end {k k' : Kernel} {published returned : Int}
    (harm : handleInterruptSignals k closedFd = some (k', published, returned)) :
    k'.lookup published = some ⟨published, k.buffers.length, .read⟩ ∧
      k'.lookup returned = some ⟨returned, k.buffers.length, .write⟩ ∧
      interrupterTurn k' returned = .errorExit ∧
      ∀ signal, (sysWrite k' published signal).1 = false := by
  simp only [handleInterruptSignals, if_true, Option.some.injEq, Prod.mk.injEq] at harm
  obtain ⟨rfl, rfl, rfl⟩ := harm
  refine ⟨lookup_pipe2_read k, lookup_pipe2_write k, ?_, fun signal => ?_⟩
  · simp [interrupterTurn, sysRead, lookup_pipe2_write]
  · simp [sysWrite, lookup_pipe2_read]

/-- A start with the standard streams open: the interrupter gets descriptor 4, the write end. -/
theorem interrupter_reads_write_end_stdio :
    handleInterruptSignals
        ⟨[⟨0, 0, .read⟩, ⟨1, 1, .write⟩, ⟨2, 2, .write⟩], [[], [], []], 3⟩ closedFd =
      some (⟨[⟨3, 3, .read⟩, ⟨4, 3, .write⟩, ⟨0, 0, .read⟩, ⟨1, 1, .write⟩, ⟨2, 2, .write⟩],
        [[], [], [], []], 5⟩, 3, 4) ∧
      interrupterTurn
        ⟨[⟨3, 3, .read⟩, ⟨4, 3, .write⟩, ⟨0, 0, .read⟩, ⟨1, 1, .write⟩, ⟨2, 2, .write⟩],
          [[], [], [], []], 5⟩ 4 = .errorExit :=
  ⟨rfl, (interrupter_reads_write_end
    (k := ⟨[⟨0, 0, .read⟩, ⟨1, 1, .write⟩, ⟨2, 2, .write⟩], [[], [], []], 3⟩) rfl).2.2.1⟩

end Cuttlefish.ServerCommand
