import Mathlib.Data.List.Infix
import Cuttlefish.Common.FlagParser

/-!
# Daemon mode

`ConsumeDaemonModeFlag` (`server_command/start.cpp:559–600`) strips `--daemon` and its
spellings from the start command's arguments, accepting only a true value. Its setter tells
an exact alias from a prefix alias by `match.key == match.value`, so a prefix match whose
value is the alias name itself (`--daemon=--daemon=`) is taken for the exact `--daemon`
(`consumeDaemonModeFlag_daemon_daemon`). `consumeDaemonModeFlag_ok_iff` gives the set of
arguments it accepts.
-/

namespace Cuttlefish.ServerCommand

/-- `kPossibleCmds`, line 567. -/
def kPossibleCmds : String := "\"cvd start\" or \"launch_cvd\""

/-- `kValidFalseStrings`, line 578. -/
def kValidFalseStrings : List String := ["n", "no", "false"]

/-- `kValidTrueStrings`, line 580. -/
def kValidTrueStrings : List String := ["y", "yes", "true"]

/-- `android::base::EqualsIgnoreCase`: equal once ASCII letters are lower-cased. -/
def equalsIgnoreCase (lhs rhs : String) : Bool :=
  lhs.data.map Char.toLower == rhs.data.map Char.toLower

/-- The setter of the daemon flag, lines 565–593. -/
def daemonSetter (m : FlagMatch) : Except String Unit :=
  if m.key = m.value then
    if List.IsInfix ['n', 'o'] m.key.data then
      .error ("--nodaemon is not supported by " ++ kPossibleCmds)
    else .ok ()
  else if ',' ∈ m.value.data then .error (m.value ++ " had a comma that is not allowed")
  else if kValidTrueStrings.any (equalsIgnoreCase · m.value) then .ok ()
  else if kValidFalseStrings.any (equalsIgnoreCase · m.value) then
    .error ("\"" ++ m.key ++ m.value ++ " was given and is not supported by " ++ kPossibleCmds)
  else
    .error ("Invalid --daemon option: " ++ m.key ++ m.value ++ ". " ++ kPossibleCmds ++
      " supports only \"--daemon=true\"")

/-- The flag of lines 560–566. -/
def daemonModeFlag : Flag where
  aliases := [⟨.flagPrefix, "-daemon="⟩, ⟨.flagPrefix, "--daemon="⟩,
    ⟨.flagExact, "-daemon"⟩, ⟨.flagExact, "--daemon"⟩, ⟨.flagExact, "-nodaemon"⟩,
    ⟨.flagExact, "--nodaemon"⟩]
  setter := daemonSetter

/-- `ConsumeDaemonModeFlag`: the arguments left once the daemon flag is consumed. -/
def consumeDaemonModeFlag (args : List String) : Except String (List String) :=
  consumeFlags [daemonModeFlag] args

/-- The argument `--daemon=--daemon=` is accepted and removed. -/
theorem consumeDaemonModeFlag_daemon_daemon :
    consumeDaemonModeFlag ["--daemon=--daemon="] = .ok [] := rfl

/-! ### What is accepted -/

/-- The arguments the daemon flag accepts: `-daemon`, `--daemon`, and `p ++ v` for `p` one of
`-daemon=`, `--daemon=` where `v` is a true string up to case or is `p` itself. -/
def DaemonAccepted (arg : String) : Prop :=
  arg = "-daemon" ∨ arg = "--daemon" ∨
    (∃ v, arg = "-daemon=" ++ v ∧
      (kValidTrueStrings.any (equalsIgnoreCase · v) = true ∨ v = "-daemon=")) ∨
    (∃ v, arg = "--daemon=" ++ v ∧
      (kValidTrueStrings.any (equalsIgnoreCase · v) = true ∨ v = "--daemon="))

theorem append_left_cancel_string {p v w : String} : p ++ v = p ++ w ↔ v = w := by
  simp [String.ext_iff]

theorem daemonAccepted_short_prefix (v : String) :
    DaemonAccepted ("-daemon=" ++ v) ↔
      (kValidTrueStrings.any (equalsIgnoreCase · v) = true ∨ v = "-daemon=") := by
  have hne : ∀ w, "-daemon=" ++ v ≠ "--daemon=" ++ w := fun w => by simp [String.ext_iff]
  have hshort : "-daemon=" ++ v ≠ "-daemon" := by simp [String.ext_iff]
  have hlong : "-daemon=" ++ v ≠ "--daemon" := by simp [String.ext_iff]
  simp [DaemonAccepted, append_left_cancel_string, hne, hshort, hlong]

theorem daemonAccepted_long_prefix (v : String) :
    DaemonAccepted ("--daemon=" ++ v) ↔
      (kValidTrueStrings.any (equalsIgnoreCase · v) = true ∨ v = "--daemon=") := by
  have hne : ∀ w, "--daemon=" ++ v ≠ "-daemon=" ++ w := fun w => by simp [String.ext_iff]
  have hshort : "--daemon=" ++ v ≠ "-daemon" := by simp [String.ext_iff]
  have hlong : "--daemon=" ++ v ≠ "--daemon" := by simp [String.ext_iff]
  simp [DaemonAccepted, append_left_cancel_string, hne, hshort, hlong]

theorem not_mem_comma_of_true {v : String}
    (h : kValidTrueStrings.any (equalsIgnoreCase · v) = true) : ',' ∉ v.data := by
  intro hc
  have hl : Char.toLower ',' ∈ v.data.map Char.toLower := List.mem_map_of_mem _ hc
  simp only [kValidTrueStrings, equalsIgnoreCase, List.any_cons, List.any_nil, Bool.or_false,
    Bool.or_eq_true, beq_iff_eq] at h
  rcases h with h | h | h <;> rw [← h] at hl <;> revert hl <;> decide

/-- With a prefix alias (no `no` in its name), the setter accepts exactly a true value or the
alias name itself. -/
theorem daemonSetter_prefix {p v : String} (hp : ¬List.IsInfix ['n', 'o'] p.data) :
    daemonSetter ⟨p, v⟩ = .ok () ↔
      (kValidTrueStrings.any (equalsIgnoreCase · v) = true ∨ v = p) := by
  unfold daemonSetter
  by_cases hpv : p = v
  · subst hpv; simp [hp]
  · by_cases ht : kValidTrueStrings.any (equalsIgnoreCase · v) = true
    · simp [hpv, ht, not_mem_comma_of_true ht]
    · simp only [hpv, if_false, ht, Bool.false_eq_true, false_or, Ne.symm hpv, iff_false]
      split_ifs <;> simp

theorem daemonModeFlag_process_iff {arg : String} (hm : daemonModeFlag.matches arg = true) :
    daemonModeFlag.process arg none = .ok .flagConsumed ↔ DaemonAccepted arg := by
  by_cases h1 : "-daemon=".data.isPrefixOf arg.data = true
  · obtain ⟨v, rfl⟩ := isPrefixOf_data_iff.1 h1
    rw [Flag.process, daemonModeFlag, processAliases_prefix, daemonAccepted_short_prefix,
      ← daemonSetter_prefix (by decide)]
    cases h : daemonSetter ⟨"-daemon=", v⟩ <;> simp [h, Functor.map, Except.map]
  by_cases h2 : "--daemon=".data.isPrefixOf arg.data = true
  · obtain ⟨v, rfl⟩ := isPrefixOf_data_iff.1 h2
    rw [Flag.process, daemonModeFlag,
      processAliases_cons_of_not_matches _ _ _ (by simp [FlagAlias.matches, List.isPrefixOf]),
      processAliases_prefix, daemonAccepted_long_prefix, ← daemonSetter_prefix (by decide)]
    cases h : daemonSetter ⟨"--daemon=", v⟩ <;> simp [h, Functor.map, Except.map]
  have hexact :
      arg = "-daemon" ∨ arg = "--daemon" ∨ arg = "-nodaemon" ∨ arg = "--nodaemon" := by
    simpa [daemonModeFlag, Flag.matches, FlagAlias.matches, h1, h2] using hm
  have hnot : ∀ v, arg ≠ "-daemon=" ++ v ∧ arg ≠ "--daemon=" ++ v := fun v =>
    ⟨fun h => h1 (isPrefixOf_data_iff.2 ⟨v, h⟩),
      fun h => h2 (isPrefixOf_data_iff.2 ⟨v, h⟩)⟩
  rcases hexact with rfl | rfl | rfl | rfl
  · exact iff_of_true rfl (.inl rfl)
  · exact iff_of_true rfl (.inr (.inl rfl))
  · exact iff_of_false (fun h => nomatch h) (by simp [DaemonAccepted, hnot])
  · exact iff_of_false (fun h => nomatch h) (by simp [DaemonAccepted, hnot])

/-- `ConsumeDaemonModeFlag` succeeds exactly when every argument its aliases match is
accepted, and then removes exactly those arguments, keeping the others in order. -/
theorem consumeDaemonModeFlag_ok_iff (args out : List String) :
    consumeDaemonModeFlag args = .ok out ↔
      (∀ a ∈ args, daemonModeFlag.matches a = true → DaemonAccepted a) ∧
        out = args.filter fun a => !daemonModeFlag.matches a := by
  rw [consumeDaemonModeFlag, consumeFlags_singleArg (by decide)]
  exact and_congr_left fun _ =>
    forall₂_congr fun _ _ => forall_congr' fun hm => daemonModeFlag_process_iff hm

end Cuttlefish.ServerCommand
