import Cuttlefish.ServerCommand.Launch
import Cuttlefish.ServerCommand.DaemonFlag
import Cuttlefish.ServerCommand.InstanceArgs

/-!
# The start request

`CvdStartCommandHandler::Handle` (`server_command/start.cpp:636–750`) with the helpers it
calls from the same file: `GetConfigPath` and `CreateLoadCommand` (lines 113–139),
`ConstructCvdNonHelpCommand` and `GetGroupCreationInfo` (lines 433–473) and
`FillOutNewInstanceInfo` (lines 852–867). What `Handle` asks of code outside the
repository (`VerifyPrecondition`, `EmulateAbsolutePath`, `ExecBaseName`, `IsHelpSubcmd`,
`InstanceManager::Analyze`, `ConstructCommand`, the subprocess waiter, `pipe2`, the status
report) is answered by `HandleOutcomes`, and every result ranges over all its answers.

A request is validated before anything outside the handler changes: the signal bridge is
armed only once the arguments, the environment and the plan passed their checks
(`handle_armed_validated`), and once armed the bridge is disarmed after every launch event,
whatever the launch did (`handle_trace_shape`).
-/

namespace Cuttlefish.ServerCommand

open Cuttlefish

/-- `supported_commands_`, lines 886–887. -/
def supportedCommands : List String := ["start", "launch_cvd"]

/-- `CvdStartCommandHandler::CanHandle`, lines 366–371, on the command `ParseInvocation`
reads from the request. -/
def canHandle (command : String) : Bool := supportedCommands.contains command

/-- `CvdStartCommandHandler::CmdList`, lines 877–884: a copy of the supported commands. -/
def cmdList : List String := supportedCommands

/-- `Envs::erase`. -/
def Envs.erase (envs : Envs) (name : String) : Envs :=
  fun k => if k = name then none else envs k

/-! ### The `--config_file` delegation -/

/-- Modelled from the spec: the value `GflagsCompatFlag(name, value)` holds once
`ConsumeFlags` has run over the arguments. Each argument the flag consumes stores the text
after its `=`, or the argument after it. -/
def gflagsValueLoop (name : String) : Bool → List String → Option String → Option String
  | _, [], v => v
  | true, _ :: rest, v => gflagsValueLoop name false rest v
  | false, arg :: rest, v =>
    match processFlags [gflagsCompatFlag name] arg rest.head? with
    | .ok .flagConsumed => gflagsValueLoop name false rest (flagArgValue name arg)
    | .ok .flagConsumedWithFollowing => gflagsValueLoop name true rest rest.head?
    | _ => gflagsValueLoop name false rest v

/-- `GetConfigPath`, lines 113–123: the `--config_file` value, when the parse succeeds and
removes an argument, and the arguments as the parse leaves them. -/
def getConfigPath (args : List String) : Option String × List String :=
  match consumeFlags [gflagsCompatFlag "config_file"] args with
  | .ok rest =>
    if args.length = rest.length then (none, rest)
    else (some ((gflagsValueLoop "config_file" false args none).getD ""), rest)
  | .error _ => (none, args)

/-- The arguments of the `load` request `CreateLoadCommand` builds, lines 125–139. -/
def createLoadCommand (args : List String) (configFile : String) : List String :=
  ["cvd", "load"] ++ args ++ [configFile]

/-! ### Collaborators and results -/

/-- The launcher command `ConstructCvdNonHelpCommand` asks `ConstructCommand` for. -/
structure LaunchCommand where
  binPath : String
  home : String
  args : List String
  envs : Envs
  commandName : String

/-- The answers of everything `Handle` calls outside the repository. -/
structure HandleOutcomes where
  /-- `command_executor_.ExecuteOne` of the `load` request. -/
  executeLoad : List String → Except String Response
  /-- `VerifyPrecondition`. -/
  precondition : Except String Unit
  /-- `SystemWideUserHome` and `EmulateAbsolutePath` on the client's `HOME`. -/
  absoluteHome : String → Except String String
  /-- `FindStartBin`: `ExecBaseName` of the `start` operation in `ANDROID_HOST_OUT`. -/
  startBin : String → Except String String
  /-- `IsHelpSubcmd`. -/
  isHelp : List String → Except String Bool
  /-- `ConstructCvdHelpCommand`. -/
  helpCommand : Except String Unit
  /-- `SubprocessWaiter::Setup` of the help command. -/
  helpSetup : Except String Unit
  /-- `SubprocessWaiter::Wait` of the help command. -/
  helpWait : Except String Siginfo
  /-- `InstanceManager::Analyze` on the arguments and the environment. -/
  analyze : List String → Envs → Except String GroupCreationInfo
  /-- `HostToolTargetManager::ReadFlag` of the start binary. -/
  readFlag : String → Bool
  /-- `ConstructCommand`. -/
  construct : LaunchCommand → Except String Unit
  /-- `pipe2` in `HandleInterruptSignals`. -/
  pipe : Except String Unit
  /-- The launch's collaborators. -/
  launch : LaunchOutcomes
  /-- `FindGroup`, `FetchGroupStatus` and `WriteAll` of the status of the registered group. -/
  report : Except String Unit
  /-- The error of `FindGroup` when no group has the plan's name. -/
  groupNotFound : String

/-- The `instance_group_info` `FillOutNewInstanceInfo` adds; instances by id. -/
structure InstanceGroupInfo where
  groupName : String
  homeDirectories : List String
  instanceIds : List Nat
  deriving DecidableEq, Repr

/-- What `Handle` replies. -/
inductive HandleReply where
  /-- A response passed on: the `load` request's, the help command's or the launch's. -/
  | response (r : Response)
  /-- Lines 650–656: `FAILED_PRECONDITION` with the precondition's message. -/
  | failedPrecondition (message : String)
  /-- `FillOutNewInstanceInfo`: the launch's response with the group's instances. -/
  | groupCreated (r : Response) (info : InstanceGroupInfo)
  deriving DecidableEq, Repr

/-- What a start request did outside the handler, in order. -/
inductive HandleEvent where
  /-- The `load` request was executed. -/
  | load
  /-- The help command was started. -/
  | helpStart
  /-- `HandleInterruptSignals` published the pipe and installed the handlers. -/
  | arm
  /-- A step of `LaunchDeviceInterruptible`. -/
  | launch (e : LaunchEvent)
  /-- `StopHandlingInterruptSignals` restored the handlers and closed the slot. -/
  | disarm
  /-- The group's status was written to the client. -/
  | report
  deriving DecidableEq, Repr

/-- A start request's reply and its events. -/
abbrev Handled := Except String HandleReply × List HandleEvent

/-- The request `Handle` serves: the invocation's subcommand and arguments, the client's
environment, whether it asked for `WAIT_BEHAVIOR_START`, and the client's working
directory. -/
structure StartRequest where
  subcmd : String
  args : List String
  envs : Envs
  waitBehaviorStart : Bool
  workingDirectory : String

/-! ### The steps of `Handle` -/

/-- Lines 662–688: an empty `HOME` is dropped; any other must not start with `~` and is made
absolute. -/
def normalizeHome (absoluteHome : String → Except String String) (envs : Envs) :
    Except String Envs :=
  match envs "HOME" with
  | none => .ok envs
  | some home =>
    if home = "" then .ok (envs.erase "HOME")
    else do
      expect (!"~".data.isPrefixOf home.data && !"~/".data.isPrefixOf home.data)
        "The HOME directory should not start with ~"
      let absolute ← absoluteHome home
      pure (envs.set "HOME" absolute)

/-- Lines 697–698: the daemon flag is consumed and `--daemon=true` appended. -/
def daemonArgs (args : List String) : Except String (List String) := do
  let args ← consumeDaemonModeFlag args
  pure (args ++ ["--daemon=true"])

/-- The help path, lines 700–708: the help command's child is started before `Setup`. -/
def runHelp (o : HandleOutcomes) : Handled :=
  match o.helpCommand with
  | .error e => (.error e, [])
  | .ok () =>
    match o.helpSetup with
    | .error e => (.error e, [.helpStart])
    | .ok () =>
      match o.helpWait with
      | .error e => (.error e, [.helpStart])
      | .ok info => (.ok (.response (responseFromSiginfo info)), [.helpStart])

/-- `GetGroupCreationInfo`, lines 456–473. -/
def getGroupCreationInfo (o : HandleOutcomes) (args : List String) (envs : Envs) :
    Except String GroupCreationInfo := do
  let info ← o.analyze args envs
  updateArgsAndEnvs o.readFlag info

/-- `ConstructCvdNonHelpCommand`, lines 433–453. -/
def constructCvdNonHelpCommand (o : HandleOutcomes) (binFile : String)
    (info : GroupCreationInfo) : Except String LaunchCommand := do
  expect (info.home != "") "!group_info.home.empty()"
  let command : LaunchCommand :=
    ⟨info.hostArtifactsPath ++ "/bin/" ++ binFile, info.home, info.args, info.envs, binFile⟩
  o.construct command
  pure command

/-- `FillOutNewInstanceInfo`, lines 852–867. -/
def fillOutNewInstanceInfo (response : Response) (info : GroupCreationInfo) : HandleReply :=
  .groupCreated response ⟨info.groupName, [info.home], info.instanceIds⟩

/-- Lines 715–749: arm the bridge, launch, disarm, then report the group. The interrupter
thread changes nothing modelled here. After a rollback the plan's group is no longer
registered, so the `FindGroup` of line 742 fails (modelled from the spec: a rolled-back
launch leaves no group of its name). -/
def launchAndReport (o : HandleOutcomes) (req : StartRequest) (info : GroupCreationInfo) :
    Handled :=
  match o.pipe with
  | .error e => (.error e, [])
  | .ok () =>
    let launched :=
      launchDeviceInterruptible o.launch req.waitBehaviorStart req.workingDirectory info
    let armed := .arm :: launched.2.map .launch ++ [.disarm]
    match launched.1 with
    | .error e => (.error e, armed)
    | .ok response =>
      let report := if LaunchEvent.remove ∈ launched.2 then .error o.groupNotFound else o.report
      match report with
      | .error e => (.error e, armed)
      | .ok () => (.ok (fillOutNewInstanceInfo response info), armed ++ [.report])

/-- `CvdStartCommandHandler::Handle`, lines 636–750. The `CF_EXPECT(CanHandle(request))` of
line 638 tests only that `CanHandle` returned a value; the subcommand is checked at
line 694. -/
def handle (o : HandleOutcomes) (req : StartRequest) : Handled :=
  match getConfigPath req.args with
  | (some configFile, args) =>
    match o.executeLoad (createLoadCommand args configFile) with
    | .error e => (.error e, [.load])
    | .ok r => (.ok (.response r), [.load])
  | (none, args) =>
    match o.precondition with
    | .error e => (.ok (.failedPrecondition e), [])
    | .ok () =>
      match normalizeHome o.absoluteHome req.envs with
      | .error e => (.error e, [])
      | .ok envs =>
        match envs kAndroidHostOut with
        | none => (.error "Contains(envs, kAndroidHostOut)", [])
        | some hostOut =>
          match o.startBin hostOut with
          | .error e => (.error e, [])
          | .ok bin =>
            if req.subcmd ∉ supportedCommands then
              (.error ("subcmd should be start but is " ++ req.subcmd), [])
            else
              match o.isHelp args with
              | .error e => (.error e, [])
              | .ok isHelp =>
                match daemonArgs args with
                | .error e => (.error e, [])
                | .ok args =>
                  if isHelp then runHelp o
                  else
                    match getGroupCreationInfo o args envs with
                    | .error e => (.error e, [])
                    | .ok info =>
                      match constructCvdNonHelpCommand o bin info with
                      | .error e => (.error e, [])
                      | .ok _ => launchAndReport o req info

/-! ### What each step can do -/

/-- A `HOME` starting with `~` is refused, with the message of line 681. -/
theorem normalizeHome_tilde {absoluteHome : String → Except String String} {envs : Envs}
    {home : String} (hhome : envs "HOME" = some home)
    (htilde : "~".data.isPrefixOf home.data = true) :
    normalizeHome absoluteHome envs = .error "The HOME directory should not start with ~" := by
  have hne : home ≠ "" := by rintro rfl; simp at htilde
  simp [normalizeHome, hhome, hne, htilde]

theorem normalizeHome_ok_home {absoluteHome : String → Except String String} {envs envs' : Envs}
    (h : normalizeHome absoluteHome envs = .ok envs') {home : String}
    (hhome : envs "HOME" = some home) : "~".data.isPrefixOf home.data = false := by
  cases htilde : "~".data.isPrefixOf home.data
  · rfl
  · rw [normalizeHome_tilde hhome htilde] at h
    cases h

theorem constructCvdNonHelpCommand_home {o : HandleOutcomes} {binFile : String}
    {info : GroupCreationInfo} {command : LaunchCommand}
    (h : constructCvdNonHelpCommand o binFile info = .ok command) : info.home ≠ "" := by
  intro hhome
  simp [constructCvdNonHelpCommand, hhome] at h

theorem runHelp_events (o : HandleOutcomes) :
    (runHelp o).2 = [] ∨ (runHelp o).2 = [.helpStart] := by
  unfold runHelp
  split
  · exact .inl rfl
  · split
    · exact .inr rfl
    · split <;> exact .inr rfl

theorem launchAndReport_events (o : HandleOutcomes) (req : StartRequest)
    (info : GroupCreationInfo) :
    (launchAndReport o req info).2 = [] ∨ ∃ rest,
      (launchAndReport o req info).2 = .arm :: (launchDeviceInterruptible o.launch
        req.waitBehaviorStart req.workingDirectory info).2.map .launch ++
          .disarm :: rest ∧ (rest = [] ∨ rest = [.report]) := by
  unfold launchAndReport
  generalize launchDeviceInterruptible o.launch req.waitBehaviorStart req.workingDirectory
    info = launched
  rcases launched with ⟨_ | response, ev⟩ <;> cases o.pipe
  · exact .inl rfl
  · exact .inr ⟨[], rfl, .inl rfl⟩
  · exact .inl rfl
  · dsimp only
    split
    · exact .inr ⟨[], rfl, .inl rfl⟩
    · exact .inr ⟨[.report], by simp, .inr rfl⟩

theorem daemonArgs_eq_ok {args out : List String} :
    daemonArgs args = .ok out ↔
      ∃ kept, consumeDaemonModeFlag args = .ok kept ∧ out = kept ++ ["--daemon=true"] := by
  simp only [daemonArgs, except_bind_eq_ok, except_pure, Except.ok.injEq]
  exact exists_congr fun _ => and_congr_right fun _ => eq_comm

/-- What `Handle` can do: stop before any effect, delegate to `load`, run the help command,
or, every check passed, launch the plan. -/
theorem handle_cases (o : HandleOutcomes) (req : StartRequest) :
    (handle o req).2 = [] ∨ (handle o req).2 = [.load] ∨ handle o req = runHelp o ∨
      ∃ args envs hostOut bin launcherArgs info command,
        getConfigPath req.args = (none, args) ∧ o.precondition = .ok () ∧
        normalizeHome o.absoluteHome req.envs = .ok envs ∧
        envs kAndroidHostOut = some hostOut ∧ o.startBin hostOut = .ok bin ∧
        req.subcmd ∈ supportedCommands ∧ o.isHelp args = .ok false ∧
        daemonArgs args = .ok launcherArgs ∧
        getGroupCreationInfo o launcherArgs envs = .ok info ∧
        constructCvdNonHelpCommand o bin info = .ok command ∧
        handle o req = launchAndReport o req info := by
  unfold handle
  split
  · exact .inr (.inl (by split <;> rfl))
  · next args hc =>
    split
    · exact .inl rfl
    · next hp =>
      split
      · exact .inl rfl
      · next envs hn =>
        split
        · exact .inl rfl
        · next hostOut hh =>
          split
          · exact .inl rfl
          · next bin hb =>
            split
            · exact .inl rfl
            · next hs =>
              split
              · exact .inl rfl
              · next isHelp hih =>
                split
                · exact .inl rfl
                · next launcherArgs hd =>
                  split
                  · exact .inr (.inr (.inl rfl))
                  · next hhelp =>
                    split
                    · exact .inl rfl
                    · next info hi =>
                      split
                      · exact .inl rfl
                      · next command hcmd =>
                        refine .inr (.inr (.inr ⟨args, envs, hostOut, bin, launcherArgs, info,
                          command, hc, hp, hn, hh, hb, not_not.1 hs, ?_, hd, hi, hcmd, rfl⟩))
                        rw [hih, Bool.eq_false_iff.2 hhelp]

/-! ### Runs of `Handle` -/

/-- Every run of `Handle` does nothing outside the handler, delegates to `load`, starts the
help command, or arms the bridge, runs the launch with each of its events after the arming,
disarms the bridge, and only then may write the group's status. -/
theorem handle_trace_shape (o : HandleOutcomes) (req : StartRequest) :
    (handle o req).2 = [] ∨ (handle o req).2 = [.load] ∨ (handle o req).2 = [.helpStart] ∨
      ∃ info rest, (handle o req).2 = .arm :: (launchDeviceInterruptible o.launch
        req.waitBehaviorStart req.workingDirectory info).2.map .launch ++
          .disarm :: rest ∧ (rest = [] ∨ rest = [.report]) := by
  rcases handle_cases o req with
    h | h | h | ⟨-, -, -, -, -, info, -, -, -, -, -, -, -, -, -, -, -, h⟩
  · exact .inl h
  · exact .inr (.inl h)
  · rw [h]
    rcases runHelp_events o with h' | h'
    · exact .inl h'
    · exact .inr (.inr (.inl h'))
  · rw [h]
    rcases launchAndReport_events o req info with h' | ⟨rest, h', hr⟩
    · exact .inl h'
    · exact .inr (.inr (.inr ⟨info, rest, h', hr⟩))

/-- The checks `Handle` makes before it arms the bridge, all passed: no `--config_file`, the
precondition, a `HOME` not starting with `~`, `ANDROID_HOST_OUT`, a supported subcommand
that is no help request, an accepted daemon flag, and a plan with a home, made from the
arguments without the daemon flag and with `--daemon=true`. -/
def HandleValidated (o : HandleOutcomes) (req : StartRequest) : Prop :=
  ∃ args kept envs info, getConfigPath req.args = (none, args) ∧
    o.precondition = .ok () ∧ normalizeHome o.absoluteHome req.envs = .ok envs ∧
    (∀ home, req.envs "HOME" = some home → "~".data.isPrefixOf home.data = false) ∧
    (envs kAndroidHostOut).isSome ∧ req.subcmd ∈ supportedCommands ∧
    o.isHelp args = .ok false ∧ consumeDaemonModeFlag args = .ok kept ∧
    getGroupCreationInfo o (kept ++ ["--daemon=true"]) envs = .ok info ∧ info.home ≠ ""

/-- The bridge is armed only for a request that passed every check of `Handle`. -/
theorem handle_armed_validated {o : HandleOutcomes} {req : StartRequest}
    (harm : HandleEvent.arm ∈ (handle o req).2) : HandleValidated o req := by
  rcases handle_cases o req with h | h | h | ⟨args, envs, hostOut, bin, launcherArgs, info,
    command, hc, hp, hn, hh, -, hs, hih, hd, hi, hcmd, -⟩
  · simp [h] at harm
  · simp [h] at harm
  · rw [h] at harm
    rcases runHelp_events o with h' | h' <;> simp [h'] at harm
  · obtain ⟨kept, hk, rfl⟩ := daemonArgs_eq_ok.1 hd
    exact ⟨args, kept, envs, info, hc, hp, hn, fun _ => normalizeHome_ok_home hn, by simp [hh],
      hs, hih, hk, hi, constructCvdNonHelpCommand_home hcmd⟩

/-- Every collaborator succeeds: the plan is group `cvd` at `/home/cvd` with instance 1 and
the client's arguments and environment, and the launcher exits with status 0. -/
def sampleOutcomes : HandleOutcomes where
  executeLoad _ := .ok ⟨.ok, ""⟩
  precondition := .ok ()
  absoluteHome home := .ok home
  startBin _ := .ok "cvd_internal_start"
  isHelp _ := .ok false
  helpCommand := .ok ()
  helpSetup := .ok ()
  helpWait := .ok ⟨1, 0⟩
  analyze args envs := .ok ⟨"/home/cvd", "/host", "/product", "cvd", [1], args, envs⟩
  readFlag _ := true
  construct _ := .ok ()
  pipe := .ok ()
  launch := ⟨.ok (), .ok (), sampleAcloudHost, .ok ⟨1, 0⟩, .ok (), .ok (), .ok ()⟩
  report := .ok ()
  groupNotFound := "group not found"

/-- `cvd start --daemon` with `ANDROID_HOST_OUT` set. -/
def sampleRequest : StartRequest :=
  ⟨"start", ["--daemon"], fun k => if k = kAndroidHostOut then some "/host" else none, false,
    "/"⟩

/-- The sample start arms the bridge, so it passed every check. -/
theorem handle_armed_validated_sample :
    HandleEvent.arm ∈ (handle sampleOutcomes sampleRequest).2 ∧
      HandleValidated sampleOutcomes sampleRequest :=
  have harm : HandleEvent.arm ∈ (handle sampleOutcomes sampleRequest).2 := by decide
  ⟨harm, handle_armed_validated harm⟩

end Cuttlefish.ServerCommand
