import Mathlib.Data.List.Chain
import Mathlib.Data.List.Sort
import Cuttlefish.Common.Result
import Cuttlefish.Common.Decimal
import Cuttlefish.Common.FlagParser

/-!
# Rewriting the launcher's instance flags

`CvdStartCommandHandler::UpdateInstanceArgsAndEnvs` (`server_command/start.cpp:372–431`)
discards the client's `--instance_nums`, `--num_instances` and `--base_instance_num` and
emits its own: the comma-separated ids when they are not a sorted consecutive run, and
otherwise the run's length and start (the start also in `CUTTLEFISH_INSTANCE`).
`UpdateArgsAndEnvs` (lines 474–512) adds `--group_id` and the launcher's environment.
`host_tool_target_manager_.ReadFlag` is a parameter: `readFlag name` says whether the
launcher accepts `name`.

`denotedInstances` is the launcher's reading of the result. On pairwise distinct ids the
output denotes exactly the ids (`updateInstanceArgsAndEnvs_denotes`). The consecutive-run
test, meant to pick out "sorted and consecutive" ids (line 417), uses a non-strict
`std::is_sorted`, so a list with a repeated id can pass it and is emitted as a run that
denotes another list (`updateInstanceArgsAndEnvs_repeated_id`). A second run of
`UpdateArgsAndEnvs` strips and re-emits the instance flags but not `--group_id`
(`updateArgsAndEnvs_rerun`).
-/

namespace Cuttlefish.ServerCommand

/-- `cvd_common::Envs`, an environment map. -/
abbrev Envs := String → Option String

/-- `envs[name] = value`. -/
def Envs.set (envs : Envs) (name value : String) : Envs :=
  fun k => if k = name then some value else envs k

@[simp] theorem Envs.set_self (envs : Envs) (name value : String) :
    envs.set name value name = some value := if_pos rfl

theorem Envs.set_of_ne {envs : Envs} {name k : String} (value : String) (h : k ≠ name) :
    envs.set name value k = envs k := if_neg h

/-- A set variable as an overlay on the environment. -/
theorem Envs.set_apply_or (envs : Envs) (name value k : String) :
    envs.set name value k = (if k = name then some value else none).or (envs k) := by
  unfold Envs.set; split <;> rfl

theorem Envs.set_set (envs : Envs) (name value : String) :
    (envs.set name value).set name value = envs.set name value := by
  funext k
  by_cases h : k = name
  · subst h; simp only [Envs.set_self]
  · simp only [Envs.set_of_ne _ h]

/-- Modelled from the spec: `kCuttlefishInstanceEnvVarName`. -/
def kCuttlefishInstanceEnvVarName : String := "CUTTLEFISH_INSTANCE"

/-- Modelled from the spec: `kAndroidHostOut`. -/
def kAndroidHostOut : String := "ANDROID_HOST_OUT"

/-- Modelled from the spec: `kAndroidSoongHostOut`. -/
def kAndroidSoongHostOut : String := "ANDROID_SOONG_HOST_OUT"

/-- Modelled from the spec: `kAndroidProductOut`. -/
def kAndroidProductOut : String := "ANDROID_PRODUCT_OUT"

/-- Modelled from the spec: `kCvdMarkEnv`. -/
def kCvdMarkEnv : String := "CVD_MARK"

/-- `UpdatedArgsAndEnvs`. -/
structure UpdatedArgsAndEnvs where
  args : List String
  envs : Envs

/-- The flags discarded at line 393, in order. -/
def instanceIdFlags : List Flag :=
  [gflagsCompatFlag "instance_nums", gflagsCompatFlag "num_instances",
    gflagsCompatFlag "base_instance_num"]

/-- `check_flag(name)`, lines 395–402. -/
def checkFlag (readFlag : String → Bool) (name : String) : Except String Unit :=
  expect (readFlag name) ("ReadFlag failed for " ++ name)

/-- `std::is_sorted`: no element is smaller than the one before it, so equal neighbours are
allowed. -/
def isSorted : List Nat → Bool
  | [] => true
  | a :: rest => sortedFrom a rest
where
  /-- The elements, each compared with the one before it, starting from `prev`. -/
  sortedFrom (prev : Nat) : List Nat → Bool
    | [] => true
    | b :: rest => decide (prev ≤ b) && sortedFrom b rest

theorem sortedFrom_iff_chain : ∀ (prev : Nat) (ids : List Nat),
    isSorted.sortedFrom prev ids = true ↔ ids.Chain (· ≤ ·) prev
  | _, [] => by simp [isSorted.sortedFrom]
  | prev, b :: rest => by
    simp [isSorted.sortedFrom, sortedFrom_iff_chain b rest, List.chain_cons]

theorem isSorted_iff_chain' (ids : List Nat) : isSorted ids = true ↔ ids.Chain' (· ≤ ·) := by
  cases ids with
  | nil => simp [isSorted]
  | cons a rest => exact sortedFrom_iff_chain a rest

/-- The consecutive-run test of lines 406–409. -/
def isConsecutiveRun (ids : List Nat) (max min : Nat) : Bool :=
  max - min == ids.length - 1 && isSorted ids

/-- `UpdateInstanceArgsAndEnvs`, lines 372–431. -/
def updateInstanceArgsAndEnvs (readFlag : String → Bool) (args : List String) (envs : Envs)
    (ids : List Nat) : Except String UpdatedArgsAndEnvs := do
  let newArgs ← consumeFlags instanceIdFlags args
  match ids.max?, ids.min? with
  | some max, some min =>
    if !isConsecutiveRun ids max min then
      checkFlag readFlag "instance_nums"
      pure ⟨newArgs ++ ["--instance_nums=" ++ ",".intercalate (ids.map Nat.repr)], envs⟩
    else
      let numArgs ← if ids.length > 1 then do
          expect (readFlag "num_instances")
            "--num_instances is not supported but multi-tenancy requested."
          pure ["--num_instances=" ++ Nat.repr ids.length]
        else pure []
      let baseArgs := if readFlag "base_instance_num" then ["--base_instance_num=" ++ Nat.repr min]
        else []
      pure ⟨newArgs ++ numArgs ++ baseArgs, envs.set kCuttlefishInstanceEnvVarName (Nat.repr min)⟩
  | _, _ => throw "no instance ids"

/-- The fields of `selector::GroupCreationInfo` the rewriter reads and writes; the instances
are their ids. -/
structure GroupCreationInfo where
  home : String
  hostArtifactsPath : String
  productOutPath : String
  groupName : String
  instanceIds : List Nat
  args : List String
  envs : Envs

/-- Line 493: `--group_id=<group name>` when the launcher accepts `group_id`. -/
def groupIdArgs (readFlag : String → Bool) (groupName : String) : List String :=
  if readFlag "group_id" then ["--group_id=" ++ groupName] else []

/-- The environment of lines 499–509. -/
def launcherEnvs (info : GroupCreationInfo) (envs : Envs) : Envs :=
  ((((envs.set "HOME" info.home).set kAndroidHostOut info.hostArtifactsPath).set
    kAndroidProductOut info.productOutPath).set kAndroidSoongHostOut info.hostArtifactsPath).set
    kCvdMarkEnv "true"

/-- `UpdateArgsAndEnvs`, lines 474–512. -/
def updateArgsAndEnvs (readFlag : String → Bool) (info : GroupCreationInfo) :
    Except String GroupCreationInfo := do
  let updated ← updateInstanceArgsAndEnvs readFlag info.args info.envs info.instanceIds
  pure { info with
    args := updated.args ++ groupIdArgs readFlag info.groupName
    envs := launcherEnvs info updated.envs }

/-! ### The emitted flags -/

theorem setter_instanceIdFlags : ∀ f ∈ instanceIdFlags, ∀ m, f.setter m = .ok () := by
  simp [instanceIdFlags, gflagsCompatFlag]

theorem notBare_of_unmatched {flags : List Flag} {arg : String} (h : Unmatched flags arg) :
    NotBare flags arg := fun f hf a ha _ => by
  have := h f hf
  simp only [Flag.matches, List.any_eq_false] at this
  simpa using this a ha

/-- An argument that is one of the stripped flags with its value attached. -/
def IsInstanceFlag (arg : String) : Prop :=
  ¬Unmatched instanceIdFlags arg ∧ NotBare instanceIdFlags arg

/-- No consumes-following alias of the stripped flags has an `=`, so an argument with one is
never a bare `--name`. -/
theorem notBare_of_eq_mem {arg : String} (h : '=' ∈ arg.data) : NotBare instanceIdFlags arg := by
  have hnames : ∀ f ∈ instanceIdFlags, ∀ a ∈ f.aliases,
      a.mode = .flagConsumesFollowing → '=' ∉ a.name.data := by decide
  intro f hf a ha hmode
  simp only [FlagAlias.matches, hmode, beq_eq_false_iff_ne]
  rintro rfl
  exact hnames f hf a ha hmode h

/-- A prefix alias `p` of a stripped flag, with an `=` in it, followed by a value. -/
theorem isInstanceFlag_of_prefix {f : Flag} {p : String} (hf : f ∈ instanceIdFlags)
    (hp : ⟨.flagPrefix, p⟩ ∈ f.aliases) (heq : '=' ∈ p.data) (v : String) :
    IsInstanceFlag (p ++ v) := by
  refine ⟨fun hun => ?_, notBare_of_eq_mem (by simp [heq])⟩
  have hno := List.any_eq_false.1 (hun f hf) _ hp
  simp [FlagAlias.matches, isPrefixOf_data_iff] at hno

/-! Every flag `UpdateInstanceArgsAndEnvs` emits is one it strips. -/

@[simp] theorem isInstanceFlag_instance_nums (v : String) :
    IsInstanceFlag ("--instance_nums=" ++ v) :=
  isInstanceFlag_of_prefix (f := gflagsCompatFlag "instance_nums") (by simp [instanceIdFlags])
    (by decide) (by decide) v

@[simp] theorem isInstanceFlag_num_instances (v : String) :
    IsInstanceFlag ("--num_instances=" ++ v) :=
  isInstanceFlag_of_prefix (f := gflagsCompatFlag "num_instances") (by simp [instanceIdFlags])
    (by decide) (by decide) v

@[simp] theorem isInstanceFlag_base_instance_num (v : String) :
    IsInstanceFlag ("--base_instance_num=" ++ v) :=
  isInstanceFlag_of_prefix (f := gflagsCompatFlag "base_instance_num")
    (by simp [instanceIdFlags]) (by decide) (by decide) v

/-- The argument `--group_id=<name>` is none of the stripped flags. -/
theorem unmatched_group_id (name : String) :
    Unmatched instanceIdFlags ("--group_id=" ++ name) :=
  of_decide_eq_true rfl

/-! ### Only the stripped arguments matter -/

/-- A run reads the client's arguments only through what `ConsumeFlags` leaves of them. -/
theorem updateInstanceArgsAndEnvs_consumed (readFlag : String → Bool) {args kept : List String}
    (hkept : consumeFlags instanceIdFlags args = .ok kept) (envs : Envs) (ids : List Nat) :
    updateInstanceArgsAndEnvs readFlag args envs ids =
      updateInstanceArgsAndEnvs readFlag kept envs ids := by
  have hk : consumeFlags instanceIdFlags kept = .ok kept :=
    consumeFlags_of_unmatched (consumeFlags_spec _ _ hkept).2
  simp only [updateInstanceArgsAndEnvs, hkept, hk]

/-- Arguments none of the flags matches pass through, in front of the emitted flags. -/
theorem updateInstanceArgsAndEnvs_append (readFlag : String → Bool) {pre : List String}
    (hpre : ∀ a ∈ pre, Unmatched instanceIdFlags a) (args : List String) (envs : Envs)
    (ids : List Nat) :
    updateInstanceArgsAndEnvs readFlag (pre ++ args) envs ids =
      (fun out => ⟨pre ++ out.args, out.envs⟩) <$>
        updateInstanceArgsAndEnvs readFlag args envs ids := by
  simp only [updateInstanceArgsAndEnvs, consumeFlags_append_of_unmatched hpre]
  cases consumeFlags instanceIdFlags args with
  | error e => rfl
  | ok kept =>
    simp only [Functor.map, Except.map, bind, Except.bind]
    split
    · split
      · cases checkFlag readFlag "instance_nums" <;> simp [pure, Except.pure]
      · split
        · cases expect (readFlag "num_instances")
              "--num_instances is not supported but multi-tenancy requested." <;>
            simp [pure, Except.pure]
        · simp [pure, Except.pure]
    · rfl

/-- What a successful run does: strip the old flags, append flags that are all stripped
ones, and touch the environment at most at `CUTTLEFISH_INSTANCE`, the same whatever the
environment was. -/
theorem updateInstanceArgsAndEnvs_ok {readFlag : String → Bool} {args : List String}
    {envs : Envs} {ids : List Nat} {out : UpdatedArgsAndEnvs}
    (h : updateInstanceArgsAndEnvs readFlag args envs ids = .ok out) :
    ∃ kept added, ∃ f : Envs → Envs, consumeFlags instanceIdFlags args = .ok kept ∧
      out = ⟨kept ++ added, f envs⟩ ∧ (∀ a ∈ added, IsInstanceFlag a) ∧
      (f = id ∨ ∃ v, f = fun e => e.set kCuttlefishInstanceEnvVarName v) ∧
      ∀ envs', updateInstanceArgsAndEnvs readFlag [] envs' ids = .ok ⟨added, f envs'⟩ := by
  cases hk : consumeFlags instanceIdFlags args with
  | error e => simp [updateInstanceArgsAndEnvs, hk, bind, Except.bind] at h
  | ok kept =>
    refine ⟨kept, ?_⟩
    have hnil : consumeFlags instanceIdFlags [] = .ok [] := rfl
    simp only [updateInstanceArgsAndEnvs, hk, bind, Except.bind] at h
    split at h
    · rename_i max min hmax hmin
      split at h
      · rename_i hrun
        cases hc : checkFlag readFlag "instance_nums" with
        | error e => simp [hc] at h
        | ok u =>
          simp only [hc, pure, Except.pure, Except.ok.injEq] at h
          exact ⟨_, id, rfl, h.symm, by simp, .inl rfl, fun envs' => by
            simp [updateInstanceArgsAndEnvs, hnil, hmax, hmin, hrun, hc, bind, Except.bind, pure,
              Except.pure]⟩
      · rename_i hrun
        split at h
        · rename_i hlen
          cases he : expect (readFlag "num_instances")
              "--num_instances is not supported but multi-tenancy requested." with
          | error e => simp [he] at h
          | ok u =>
            simp only [he, pure, Except.pure, Except.ok.injEq] at h
            refine ⟨_, _, rfl, by rw [← h, List.append_assoc], ?_, .inr ⟨_, rfl⟩, fun envs' => by
              simp [updateInstanceArgsAndEnvs, hnil, hmax, hmin, hrun, hlen, he, bind, Except.bind,
                pure, Except.pure]⟩
            intro a ha
            simp only [List.mem_append, List.mem_ite_nil_right, List.mem_singleton] at ha
            rcases ha with rfl | ⟨-, rfl⟩ <;> simp
        · rename_i hlen
          simp only [pure, Except.pure, Except.ok.injEq] at h
          refine ⟨_, _, rfl, by rw [← h, List.append_assoc], ?_, .inr ⟨_, rfl⟩, fun envs' => by
            simp [updateInstanceArgsAndEnvs, hnil, hmax, hmin, hrun, hlen, bind, Except.bind, pure,
              Except.pure]⟩
          intro a ha
          simp only [List.nil_append, List.mem_ite_nil_right, List.mem_singleton] at ha
          obtain ⟨-, rfl⟩ := ha
          simp
    · simp [throw, throwThe, MonadExceptOf.throw] at h

/-! ### What the emitted flags denote -/

/-- The value of an argument `p ++ v` after its prefix `p`. -/
def valueAfter (p arg : String) : Option String :=
  if p.data.isPrefixOf arg.data then some ⟨arg.data.drop p.length⟩ else none

/-- The launcher's reading of one argument for the flag `name`: the value of `-name=v` or
`--name=v`. -/
def flagArgValue (name arg : String) : Option String :=
  (valueAfter ("-" ++ name ++ "=") arg).or (valueAfter ("--" ++ name ++ "=") arg)

/-- The value of the last argument that gives `name`. -/
def flagValue (name : String) (args : List String) : Option String :=
  args.reverse.findSome? (flagArgValue name)

/-- The instance ids a launcher command line denotes: the comma-separated `--instance_nums`
value if that flag is present; otherwise `[b, b+1, …, b+k-1]` with `k` the `--num_instances`
value (1 if absent) and `b` the `--base_instance_num` value, or else `CUTTLEFISH_INSTANCE`. -/
def denotedInstances (args : List String) (envs : Envs) : Option (List Nat) :=
  match flagValue "instance_nums" args with
  | some v => parseUnsignedList v
  | none => do
    let count ← (flagValue "num_instances" args).elim (some 1) parseUnsigned
    let base ← (flagValue "base_instance_num" args).elim
      ((envs kCuttlefishInstanceEnvVarName).bind parseUnsigned) parseUnsigned
    pure (List.range' base count)

@[simp] theorem valueAfter_append (p v : String) : valueAfter p (p ++ v) = some v := by
  simp [valueAfter, isPrefixOf_data_iff, drop_length_append]

theorem valueAfter_of_not_isPrefixOf {p arg : String} (h : p.data.isPrefixOf arg.data = false) :
    valueAfter p arg = none := by
  simp [valueAfter, h]

theorem flagArgValue_of_unmatched {name arg : String}
    (h : (gflagsCompatFlag name).matches arg = false) : flagArgValue name arg = none := by
  simp only [Flag.matches, gflagsCompatFlag, List.any_cons, FlagAlias.matches, Bool.or_eq_false_iff]
    at h
  simp only [flagArgValue, valueAfter, h.1, h.2.1, Bool.false_eq_true, if_false]
  rfl

@[simp] theorem flagValue_nil (name : String) : flagValue name [] = none := rfl

theorem flagValue_append (name : String) (xs ys : List String) :
    flagValue name (xs ++ ys) = (flagValue name ys).or (flagValue name xs) := by
  simp [flagValue, List.findSome?_append]

/-- Arguments none of the stripped flags matches give none of their values. -/
theorem flagValue_of_unmatched {kept : List String}
    (hkept : ∀ a ∈ kept, Unmatched instanceIdFlags a) (name : String)
    (hname : gflagsCompatFlag name ∈ instanceIdFlags) : flagValue name kept = none :=
  List.findSome?_eq_none_iff.2 fun a ha =>
    flagArgValue_of_unmatched (hkept a (List.mem_reverse.1 ha) _ hname)

/-- What the launcher reads is decided by the emitted flags alone. -/
theorem denotedInstances_append {kept : List String}
    (hkept : ∀ a ∈ kept, Unmatched instanceIdFlags a) (added : List String) (envs : Envs) :
    denotedInstances (kept ++ added) envs = denotedInstances added envs := by
  simp only [denotedInstances, flagValue_append,
    flagValue_of_unmatched hkept "instance_nums" (by simp [instanceIdFlags]),
    flagValue_of_unmatched hkept "num_instances" (by simp [instanceIdFlags]),
    flagValue_of_unmatched hkept "base_instance_num" (by simp [instanceIdFlags]),
    Option.or_none]

/-- A strictly increasing run starting at `a` whose elements are at most `a + length - 1` is
`[a, a+1, …]`. -/
theorem eq_range'_of_pairwise_lt : ∀ (a : Nat) (rest : List Nat),
    (a :: rest).Pairwise (· < ·) → (∀ x ∈ a :: rest, x ≤ a + rest.length) →
      a :: rest = List.range' a (rest.length + 1)
  | _, [], _, _ => rfl
  | a, b :: rest, hlt, hle => by
    have hab : a < b := List.rel_of_pairwise_cons hlt (List.mem_cons_self _ _)
    have ih := eq_range'_of_pairwise_lt b rest hlt.of_cons fun x hx => by
      have := hle x (List.mem_cons_of_mem _ hx)
      simp only [List.length_cons] at this
      omega
    have hlast : b + rest.length ≤ a + (rest.length + 1) :=
      hle _ (List.mem_cons_of_mem _ (by rw [ih, List.mem_range'_1]; omega))
    rw [List.length_cons, List.range'_succ, ih, show b = a + 1 by omega]

/-- The ids that pass the consecutive-run test are `[min, min+1, …]` when no id repeats. -/
theorem eq_range'_of_isConsecutiveRun {ids : List Nat} {max min : Nat} (hnodup : ids.Nodup)
    (hmax : ids.max? = some max) (hmin : ids.min? = some min)
    (hrun : isConsecutiveRun ids max min = true) : ids = List.range' min ids.length := by
  simp only [isConsecutiveRun, Bool.and_eq_true, beq_iff_eq, isSorted_iff_chain'] at hrun
  obtain ⟨hcount, hsorted⟩ := hrun
  cases ids with
  | nil => simp at hmax
  | cons a rest =>
    have hle : (a :: rest).Pairwise (· ≤ ·) := List.chain'_iff_pairwise.1 hsorted
    have hlt : (a :: rest).Pairwise (· < ·) := List.Sorted.lt_of_le hle hnodup
    obtain ⟨hmin_mem, hmin_le⟩ := List.min?_eq_some_iff'.1 hmin
    have hmin_eq : min = a := by
      have hamin : a ≤ min := by
        rcases List.mem_cons.1 hmin_mem with h | h
        · exact h.ge
        · exact List.rel_of_pairwise_cons hle h
      exact Nat.le_antisymm (hmin_le a (List.mem_cons_self _ _)) hamin
    subst hmin_eq
    obtain ⟨-, hmax_ge⟩ := List.max?_eq_some_iff'.1 hmax
    exact eq_range'_of_pairwise_lt _ rest hlt fun x hx => by
      have := hmax_ge x hx
      simp only [List.length_cons] at hcount
      omega

/-- The launcher reads back `v` from the one argument `--name=v`. -/
theorem flagValue_single_long (name v : String)
    (hshort : valueAfter ("-" ++ name ++ "=") ("--" ++ name ++ "=" ++ v) = none) :
    flagValue name ["--" ++ name ++ "=" ++ v] = some v := by
  simp [flagValue, flagArgValue, hshort]

/-- What a consecutive run emits, `--num_instances` unless the count is one and
`--base_instance_num` if the launcher takes it, denotes the run, the base also read from
`CUTTLEFISH_INSTANCE`. -/
theorem denotedInstances_run {count base : Nat} (numArgs : List String)
    (hnum : numArgs = ["--num_instances=" ++ Nat.repr count] ∨ numArgs = [] ∧ count = 1)
    (withBase : Bool) (envs : Envs) :
    denotedInstances (numArgs ++ if withBase then ["--base_instance_num=" ++ Nat.repr base] else [])
      (envs.set kCuttlefishInstanceEnvVarName (Nat.repr base)) = some (List.range' base count) := by
  have hI1 : flagValue "instance_nums" ["--num_instances=" ++ Nat.repr count] = none := rfl
  have hI2 : flagValue "instance_nums" ["--base_instance_num=" ++ Nat.repr base] = none := rfl
  have hN1 : flagValue "num_instances" ["--num_instances=" ++ Nat.repr count] =
      some (Nat.repr count) := flagValue_single_long "num_instances" _ rfl
  have hN2 : flagValue "num_instances" ["--base_instance_num=" ++ Nat.repr base] = none := rfl
  have hB1 : flagValue "base_instance_num" ["--num_instances=" ++ Nat.repr count] = none := rfl
  have hB2 : flagValue "base_instance_num" ["--base_instance_num=" ++ Nat.repr base] =
      some (Nat.repr base) := flagValue_single_long "base_instance_num" _ rfl
  cases withBase <;> rcases hnum with rfl | ⟨rfl, rfl⟩ <;>
    simp only [denotedInstances, flagValue_append, flagValue_nil, hI1, hI2, hN1, hN2, hB1, hB2,
      Option.or_none, Option.none_or, Option.elim, Option.some_bind, parseUnsigned_repr,
      Envs.set_self, if_true, if_false, Bool.false_eq_true, List.append_nil] <;>
    rfl

/-- For ids that pass the consecutive-run test, repeated or not, the flags and variable a
run emits denote `[min, min+1, …]`, as many as there are ids. -/
theorem denotedInstances_emitted_run {readFlag : String → Bool} {envs : Envs} {ids : List Nat}
    {max min : Nat} {out : UpdatedArgsAndEnvs} (hmax : ids.max? = some max)
    (hmin : ids.min? = some min) (hrun : isConsecutiveRun ids max min = true)
    (h : updateInstanceArgsAndEnvs readFlag [] envs ids = .ok out) :
    denotedInstances out.args out.envs = some (List.range' min ids.length) := by
  have hnil : consumeFlags instanceIdFlags [] = .ok [] := rfl
  have hne : ids ≠ [] := by rintro rfl; simp at hmax
  simp only [updateInstanceArgsAndEnvs, hnil, hmax, hmin, hrun, bind, Except.bind, Bool.not_true,
    Bool.false_eq_true, if_false] at h
  split at h
  · cases he : expect (readFlag "num_instances")
        "--num_instances is not supported but multi-tenancy requested." with
    | error e => simp [he] at h
    | ok u =>
      simp only [he, pure, Except.pure, Except.ok.injEq] at h
      subst h
      exact denotedInstances_run _ (.inl rfl) _ _
  · have h1 : ids.length = 1 := by have := List.length_pos.2 hne; omega
    simp only [pure, Except.pure, Except.ok.injEq] at h
    subst h
    exact denotedInstances_run _ (.inr ⟨rfl, h1⟩) _ _

/-- On pairwise distinct ids, the flags and variable a run emits denote exactly the ids. -/
theorem denotedInstances_emitted {readFlag : String → Bool} {envs : Envs} {ids : List Nat}
    {out : UpdatedArgsAndEnvs} (hnodup : ids.Nodup)
    (h : updateInstanceArgsAndEnvs readFlag [] envs ids = .ok out) :
    denotedInstances out.args out.envs = some ids := by
  have hnil : consumeFlags instanceIdFlags [] = .ok [] := rfl
  have hemitted := h
  simp only [updateInstanceArgsAndEnvs, hnil, bind, Except.bind] at h
  split at h
  · rename_i max min hmax hmin
    have hne : ids ≠ [] := by rintro rfl; simp at hmax
    split at h
    · cases hc : checkFlag readFlag "instance_nums" with
      | error e => simp [hc] at h
      | ok u =>
        simp only [hc, pure, Except.pure, Except.ok.injEq] at h
        subst h
        have hv :
            flagValue "instance_nums" ["--instance_nums=" ++ ",".intercalate (ids.map Nat.repr)] =
              some (",".intercalate (ids.map Nat.repr)) := flagValue_single_long "instance_nums" _ rfl
        simp only [denotedInstances, List.nil_append, hv, parseUnsignedList_intercalate hne]
    · rename_i hrun
      have hrun' : isConsecutiveRun ids max min = true := by simpa using hrun
      rw [denotedInstances_emitted_run hmax hmin hrun' hemitted,
        ← eq_range'_of_isConsecutiveRun hnodup hmax hmin hrun']
  · simp [throw, throwThe, MonadExceptOf.throw] at h

/-- On pairwise distinct ids, a successful run keeps what `ConsumeFlags` leaves of the
client's arguments, a sublist of them in order and none of them a stripped flag (all the
others, when none is a bare `--name` waiting for its value), appends the flags it emits on
no arguments at all, and the result denotes exactly the ids. -/
theorem updateInstanceArgsAndEnvs_denotes {readFlag : String → Bool} {args : List String}
    {envs : Envs} {ids : List Nat} {out : UpdatedArgsAndEnvs} (hnodup : ids.Nodup)
    (h : updateInstanceArgsAndEnvs readFlag args envs ids = .ok out) :
    ∃ kept added, consumeFlags instanceIdFlags args = .ok kept ∧
      updateInstanceArgsAndEnvs readFlag [] envs ids = .ok ⟨added, out.envs⟩ ∧
      out.args = kept ++ added ∧ kept.Sublist args ∧
      (∀ a ∈ kept, Unmatched instanceIdFlags a) ∧ (∀ a ∈ added, IsInstanceFlag a) ∧
      ((∀ a ∈ args, NotBare instanceIdFlags a) →
        kept = args.filter fun a => decide (Unmatched instanceIdFlags a)) ∧
      denotedInstances out.args out.envs = some ids := by
  obtain ⟨kept, added, f, hk, rfl, hadded, -, hnil⟩ := updateInstanceArgsAndEnvs_ok h
  obtain ⟨hsub, hun⟩ := consumeFlags_spec _ _ hk
  refine ⟨kept, added, hk, hnil envs, rfl, hsub, hun, hadded, fun hbare => ?_, ?_⟩
  · have hfilter := consumeFlags_eq_filter setter_instanceIdFlags hbare
    rw [hk] at hfilter
    exact Except.ok.inj hfilter
  · rw [denotedInstances_append hun]
    exact denotedInstances_emitted hnodup (hnil envs)

/-- Two instances, the client asking for five with a separate value. -/
theorem updateInstanceArgsAndEnvs_denotes_two :
    ∃ out, updateInstanceArgsAndEnvs (fun _ => true) ["--num_instances", "5", "--daemon"]
        (fun _ => none) [2, 3] = .ok out ∧
      ∃ kept added, consumeFlags instanceIdFlags ["--num_instances", "5", "--daemon"] =
          .ok kept ∧
        updateInstanceArgsAndEnvs (fun _ => true) [] (fun _ => none) [2, 3] =
          .ok ⟨added, out.envs⟩ ∧
        out.args = kept ++ added ∧ kept.Sublist ["--num_instances", "5", "--daemon"] ∧
        (∀ a ∈ kept, Unmatched instanceIdFlags a) ∧ (∀ a ∈ added, IsInstanceFlag a) ∧
        ((∀ a ∈ ["--num_instances", "5", "--daemon"], NotBare instanceIdFlags a) →
          kept = ["--num_instances", "5", "--daemon"].filter
            fun a => decide (Unmatched instanceIdFlags a)) ∧
        denotedInstances out.args out.envs = some [2, 3] :=
  ⟨_, rfl, @updateInstanceArgsAndEnvs_denotes (fun _ => true) _ (fun _ => none) [2, 3] _
    (by decide) rfl⟩

/-- Ids with a repeated entry that pass the consecutive-run test of lines 406–409 are
emitted as a run: the output denotes `[min, min+1, …]`, which is not the ids. -/
theorem updateInstanceArgsAndEnvs_repeated_id {readFlag : String → Bool} {args : List String}
    {envs : Envs} {ids : List Nat} {max min : Nat} {out : UpdatedArgsAndEnvs}
    (hmax : ids.max? = some max) (hmin : ids.min? = some min)
    (hrun : isConsecutiveRun ids max min = true) (hdup : ¬ ids.Nodup)
    (h : updateInstanceArgsAndEnvs readFlag args envs ids = .ok out) :
    denotedInstances out.args out.envs = some (List.range' min ids.length) ∧
      List.range' min ids.length ≠ ids := by
  obtain ⟨kept, added, f, hk, rfl, -, -, hnil⟩ := updateInstanceArgsAndEnvs_ok h
  refine ⟨?_, fun heq => hdup (heq ▸ List.nodup_range' _ _)⟩
  rw [denotedInstances_append (consumeFlags_spec _ _ hk).2]
  exact denotedInstances_emitted_run hmax hmin hrun (hnil envs)

/-- `[1, 1, 3]` passes the test and is emitted as three instances from 1. -/
theorem updateInstanceArgsAndEnvs_repeated_id_one_one_three :
    [1, 1, 3].max? = some 3 ∧ [1, 1, 3].min? = some 1 ∧ isConsecutiveRun [1, 1, 3] 3 1 = true ∧
      ¬ [1, 1, 3].Nodup ∧
      ∃ out, updateInstanceArgsAndEnvs (fun _ => true) [] (fun _ => none) [1, 1, 3] = .ok out ∧
        out.args = ["--num_instances=3", "--base_instance_num=1"] ∧
        denotedInstances out.args out.envs = some (List.range' 1 3) ∧
        List.range' 1 3 ≠ [1, 1, 3] :=
  ⟨rfl, rfl, rfl, by decide, _, rfl, rfl,
    @updateInstanceArgsAndEnvs_repeated_id (fun _ => true) [] (fun _ => none) [1, 1, 3] 3 1 _
      rfl rfl rfl (by decide) rfl⟩

/-! ### Running the rewriter twice -/

/-- The launcher's variables are an overlay: each is its value, all others pass through. -/
theorem launcherEnvs_apply (info : GroupCreationInfo) (envs : Envs) (k : String) :
    launcherEnvs info envs k = ((launcherEnvs info fun _ => none) k).or (envs k) := by
  simp only [launcherEnvs, Envs.set_apply_or, Option.or_assoc, Option.or_none]

theorem launcherEnvs_launcherEnvs (info : GroupCreationInfo) (envs : Envs) :
    launcherEnvs info (launcherEnvs info envs) = launcherEnvs info envs := funext fun k => by
  rw [launcherEnvs_apply info (launcherEnvs info envs), launcherEnvs_apply info envs,
    ← Option.or_assoc, Option.or_self]

theorem launcherEnvs_set_launcherEnvs (info : GroupCreationInfo) (envs : Envs)
    (name value : String) :
    launcherEnvs info ((launcherEnvs info envs).set name value) =
      launcherEnvs info (envs.set name value) := by
  funext k
  rw [launcherEnvs_apply info ((launcherEnvs info envs).set name value),
    launcherEnvs_apply info (envs.set name value)]
  by_cases hk : k = name
  · subst hk; simp only [Envs.set_self]
  · rw [Envs.set_of_ne _ hk, Envs.set_of_ne _ hk, launcherEnvs_apply info envs,
      ← Option.or_assoc, Option.or_self]

/-- Setting the launcher's variables again, after `CUTTLEFISH_INSTANCE` is set to the same
value or left alone, changes nothing. -/
theorem launcherEnvs_twice (info : GroupCreationInfo) {f : Envs → Envs}
    (hf : f = id ∨ ∃ v, f = fun e => e.set kCuttlefishInstanceEnvVarName v) (envs : Envs) :
    launcherEnvs info (f (launcherEnvs info (f envs))) = launcherEnvs info (f envs) := by
  rcases hf with rfl | ⟨v, rfl⟩
  · exact launcherEnvs_launcherEnvs info envs
  · exact (launcherEnvs_set_launcherEnvs info _ _ v).trans (congrArg _ (Envs.set_set _ _ v))

theorem unmatched_groupIdArgs (readFlag : String → Bool) (groupName : String) :
    ∀ a ∈ groupIdArgs readFlag groupName, Unmatched instanceIdFlags a := by
  unfold groupIdArgs
  split <;> simp [unmatched_group_id]

/-- Stripping the instance flags from a first run's output, with arguments none of them
matches appended, leaves the kept arguments and the appended ones. -/
theorem consumeFlags_rerun {kept added gid : List String}
    (hkept : ∀ a ∈ kept, Unmatched instanceIdFlags a) (hadded : ∀ a ∈ added, IsInstanceFlag a)
    (hgid : ∀ a ∈ gid, Unmatched instanceIdFlags a) :
    consumeFlags instanceIdFlags (kept ++ added ++ gid) = .ok (kept ++ gid) := by
  rw [consumeFlags_eq_filter setter_instanceIdFlags]
  · simp only [List.filter_append]
    rw [List.filter_eq_self.2 (by simpa using hkept),
      List.filter_eq_nil_iff.2 (by simpa using fun a ha => (hadded a ha).1),
      List.filter_eq_self.2 (by simpa using hgid), List.append_nil]
  · simp only [List.mem_append]
    rintro a ((ha | ha) | ha)
    exacts [notBare_of_unmatched (hkept a ha), (hadded a ha).2, notBare_of_unmatched (hgid a ha)]

/-- `UpdateInstanceArgsAndEnvs` on a first run's output, with arguments none of the flags
matches appended: the same flags are emitted again, after the kept and appended arguments. -/
theorem updateInstanceArgsAndEnvs_rerun {readFlag : String → Bool} {kept added gid : List String}
    {ids : List Nat} {f : Envs → Envs} (hkept : ∀ a ∈ kept, Unmatched instanceIdFlags a)
    (hadded : ∀ a ∈ added, IsInstanceFlag a) (hgid : ∀ a ∈ gid, Unmatched instanceIdFlags a)
    (hnil : ∀ envs', updateInstanceArgsAndEnvs readFlag [] envs' ids = .ok ⟨added, f envs'⟩)
    (envs : Envs) :
    updateInstanceArgsAndEnvs readFlag (kept ++ added ++ gid) envs ids =
      .ok ⟨kept ++ gid ++ added, f envs⟩ := by
  have happ := updateInstanceArgsAndEnvs_append readFlag
    (fun a ha => (List.mem_append.1 ha).elim (hkept a) (hgid a)) [] envs ids
  rw [List.append_nil] at happ
  rw [updateInstanceArgsAndEnvs_consumed readFlag (consumeFlags_rerun hkept hadded hgid), happ,
    hnil]
  rfl

/-- `UpdateArgsAndEnvs` run on its own output: the instance flags, those it emits on no
arguments, are stripped and emitted again and the environment comes out the same, but the
`--group_id` of the first run is kept, ahead of the instance flags, and another is
appended. -/
theorem updateArgsAndEnvs_rerun {readFlag : String → Bool} {info info' : GroupCreationInfo}
    (h : updateArgsAndEnvs readFlag info = .ok info') :
    ∃ kept added, consumeFlags instanceIdFlags info.args = .ok kept ∧
      (∃ envs', updateInstanceArgsAndEnvs readFlag [] info.envs info.instanceIds =
        .ok ⟨added, envs'⟩) ∧
      info'.args = kept ++ added ++ groupIdArgs readFlag info.groupName ∧
      updateArgsAndEnvs readFlag info' = .ok { info' with
        args := kept ++ groupIdArgs readFlag info.groupName ++ added ++
          groupIdArgs readFlag info.groupName } := by
  simp only [updateArgsAndEnvs, bind, Except.bind] at h
  cases hu : updateInstanceArgsAndEnvs readFlag info.args info.envs info.instanceIds with
  | error e => simp [hu] at h
  | ok out =>
    simp only [hu, pure, Except.pure, Except.ok.injEq] at h
    subst h
    obtain ⟨kept, added, f, hk, rfl, hadded, hf, hnil⟩ := updateInstanceArgsAndEnvs_ok hu
    refine ⟨kept, added, hk, ⟨_, hnil info.envs⟩, rfl, ?_⟩
    simp only [updateArgsAndEnvs, bind, Except.bind, pure, Except.pure,
      updateInstanceArgsAndEnvs_rerun (consumeFlags_spec _ _ hk).2 hadded
        (unmatched_groupIdArgs readFlag info.groupName) hnil]
    congr 2
    exact launcherEnvs_twice info hf info.envs

/-- A group of one instance whose launcher accepts every flag. -/
theorem updateArgsAndEnvs_rerun_one_instance :
    ∃ info', updateArgsAndEnvs (fun _ => true)
        ⟨"/home/cvd", "/host", "/product", "cvd", [1], [], fun _ => none⟩ = .ok info' ∧
      ∃ kept added, consumeFlags instanceIdFlags [] = .ok kept ∧
        (∃ envs', updateInstanceArgsAndEnvs (fun _ => true) [] (fun _ => none) [1] =
          .ok ⟨added, envs'⟩) ∧
        info'.args = kept ++ added ++ groupIdArgs (fun _ => true) "cvd" ∧
        updateArgsAndEnvs (fun _ => true) info' = .ok { info' with
          args := kept ++ groupIdArgs (fun _ => true) "cvd" ++ added ++
            groupIdArgs (fun _ => true) "cvd" } :=
  ⟨_, rfl, @updateArgsAndEnvs_rerun (fun _ => true)
    ⟨"/home/cvd", "/host", "/product", "cvd", [1], [], fun _ => none⟩ _ rfl⟩

/-- The same group: the second run's arguments differ from the first's. -/
theorem updateArgsAndEnvs_group_id_twice :
    ∃ info' info'', updateArgsAndEnvs (fun _ => true)
        ⟨"/home/cvd", "/host", "/product", "cvd", [1], [], fun _ => none⟩ = .ok info' ∧
      updateArgsAndEnvs (fun _ => true) info' = .ok info'' ∧
      info'.args = ["--base_instance_num=1", "--group_id=cvd"] ∧
      info''.args = ["--group_id=cvd", "--base_instance_num=1", "--group_id=cvd"] :=
  ⟨_, _, rfl, rfl, rfl, rfl⟩

end Cuttlefish.ServerCommand
