import Mathlib.Data.List.Nodup
import Cuttlefish.Selector.InstanceDatabase

/-!
# Registry invariants over every run

§3's invariants R1–R3, the mutations of `InstanceDatabase` as a transition system from
the empty registry, and what each transition does to them. Under R3 the queries of
`instance_database.cpp:157–209` are the §4.C filters, so `AddInstanceGroup`'s conflict
checks (lines 81–96) test for a stored `(name, home)` pair and for a stored id.
`RemoveInstanceGroup`, `Clear` and `SetAcloudTranslatorOptout` keep R1–R3, and
`AddInstanceGroup` keeps them as long as `Create` refuses a group that repeats an id;
`LoadFromJson` appends what it deserialized with no conflict check (lines 233–239).
-/

namespace Cuttlefish.Selector

open Cuttlefish

/-- The `(name, home)` key of every stored group, in file order. -/
def PersistentData.groupKeys (data : PersistentData) : List (String × String) :=
  data.instanceGroups.map fun g => (g.name, g.homeDirectory)

/-- The id of every stored instance, group after group. -/
def PersistentData.instanceIds (data : PersistentData) : List UInt32 :=
  data.instanceGroups.flatMap fun g => g.instances.map (·.id)

/-- Some instance of `group` has an id already stored. -/
def PersistentData.SharesId (data : PersistentData) (group : InstanceGroup) : Prop :=
  ∃ i ∈ group.instances, i.id ∈ data.instanceIds

variable (h : Helpers)

/-- R3: every stored group passes `LocalInstanceGroup::Create`. -/
def AllValid (data : PersistentData) : Prop :=
  ∀ g ∈ data.instanceGroups, h.createValid g = true

/-- §3's registry invariants R1–R3. -/
structure RegistryInvariant (data : PersistentData) : Prop where
  /-- R1: no two groups share a name and a home. -/
  uniqueKeys : data.groupKeys.Nodup
  /-- R2: no two instances of the whole registry share an id. -/
  uniqueIds : data.instanceIds.Nodup
  /-- R3: every group passes `Create`, so no `CHECK` of the queries fires. -/
  valid : AllValid h data

instance (data : PersistentData) : Decidable (AllValid h data) :=
  inferInstanceAs (Decidable (∀ g ∈ data.instanceGroups, h.createValid g = true))

instance (data : PersistentData) : Decidable (RegistryInvariant h data) :=
  decidable_of_iff (data.groupKeys.Nodup ∧ data.instanceIds.Nodup ∧ AllValid h data)
    ⟨fun ⟨hk, hi, hv⟩ => ⟨hk, hi, hv⟩, fun ⟨hk, hi, hv⟩ => ⟨hk, hi, hv⟩⟩

/-! ### Runs of the registry -/

/-- The mutations of `InstanceDatabase`, with their arguments. -/
inductive DbOp where
  | add (group : InstanceGroup)
  | remove (groupName : String)
  | clear
  | load (dbJson : Json)
  | setOptout (optout : Bool)

/-- The registry after one operation; the reply does not feed the next one. -/
def DbOp.apply : DbOp → PersistentData → PersistentData
  | .add group, data => (addInstanceGroup h group data).2
  | .remove groupName, data => (removeInstanceGroup groupName data).2
  | .clear, data => (Selector.clear h data).2
  | .load dbJson, data => (loadFromJson h dbJson data).2
  | .setOptout optout, data => (setAcloudTranslatorOptout optout data).2

/-- The registry after a sequence of operations, in order. -/
def runOps (ops : List DbOp) (data : PersistentData) : PersistentData :=
  ops.foldl (fun data op => op.apply h data) data

/-! ### Queries on a registry satisfying R3 -/

variable {h}

/-- Under R3, `FindGroups(data, F)` returns, in registry order, the groups §4.C selects;
with the empty filter that is `InstanceGroups()`. -/
theorem findGroups_eq_filter {data : PersistentData} (hv : AllValid h data) (param : FindParam) :
    (∃ found, findGroups h data param = .ok found ∧
      found.map (·.proto) = data.instanceGroups.filter param.selectsGroup) ∧
    findGroups h data {} = instanceGroups h data :=
  ⟨findGroupsIn_of_valid h hv, findGroupsIn_empty_of_valid h hv⟩

/-- Group `cvd` at `/home/vsoc-01` with instance 1, the registry entry of the samples. -/
def sampleGroup : InstanceGroup := ⟨"cvd", "/home/vsoc-01", "/host", [⟨1, "ins_1"⟩]⟩

/-- Group `cvd` at `/home/vsoc-01` with instance 1, in §6's import format. -/
def sampleGroupJson : Json :=
  .obj [("name", .str "cvd"), ("home_directory", .str "/home/vsoc-01"),
    ("host_artifacts_path", .str "/host"),
    ("instances", .arr [.obj [("id", .num 1), ("name", .str "ins_1")]])]

theorem findGroups_eq_filter_sample :
    AllValid specHelpers (runOps specHelpers [.add sampleGroup] .empty) ∧
      ((∃ found, findGroups specHelpers
          (runOps specHelpers [.add sampleGroup] .empty)
          { id := some 1 } = .ok found ∧
        found.map (·.proto) = [sampleGroup]) ∧
      findGroups specHelpers
          (runOps specHelpers [.add sampleGroup] .empty) {} =
        instanceGroups specHelpers
          (runOps specHelpers [.add sampleGroup] .empty)) :=
  ⟨by decide, findGroups_eq_filter (by decide) { id := some 1 }⟩

/-- Under R3, `FindInstances(data, F)` returns the instances §4.C selects: group after group
in registry order, each group's in its own order, each seen through its group. -/
theorem findInstances_eq_selected {data : PersistentData} (hv : AllValid h data)
    (param : FindParam) :
    findInstances h data param = .ok (data.instanceGroups.flatMap fun g =>
      (g.instances.filter (param.selectsInstance g)).map fun i => ⟨i.id, g.name, i.name⟩) :=
  findInstancesIn_of_valid h hv

/-- The sample registry asked for the instances named `ins_1`. -/
theorem findInstances_eq_selected_sample :
    AllValid specHelpers (runOps specHelpers [.add sampleGroup] .empty) ∧
      findInstances specHelpers (runOps specHelpers [.add sampleGroup] .empty)
          { instanceName := some "ins_1" } =
        .ok ((runOps specHelpers [.add sampleGroup] .empty).instanceGroups.flatMap fun g =>
          (g.instances.filter (FindParam.selectsInstance { instanceName := some "ins_1" } g)).map
            fun i => ⟨i.id, g.name, i.name⟩) :=
  ⟨by decide, findInstances_eq_selected (by decide) { instanceName := some "ins_1" }⟩

/-- Under R3, `Clear()` succeeds with the groups `InstanceGroups()` lists, in the same order,
and leaves no group and the opt-out bit as it was. -/
theorem clear_of_valid {data : PersistentData} (hv : AllValid h data) :
    ∃ groups, instanceGroups h data = .ok groups ∧ (clear h data).1 = .ok groups ∧
      isEmpty (clear h data).2 = true ∧
      getAcloudTranslatorOptout (clear h data).2 = getAcloudTranslatorOptout data := by
  obtain ⟨groups, hfound, -⟩ := @findGroupsIn_of_valid h {} _ hv
  have hgroups : data.instanceGroups.mapM LocalInstanceGroup.create = .ok groups :=
    (findGroupsIn_empty_of_valid h hv).symm.trans hfound
  refine ⟨groups, hgroups, ?_⟩
  simp only [clear, hgroups, except_bind_ok, except_pure, withExclusiveLock, isEmpty,
    List.isEmpty_nil, getAcloudTranslatorOptout, and_self]

/-- The sample registry is cleared. -/
theorem clear_of_valid_sample :
    AllValid specHelpers (runOps specHelpers [.add sampleGroup] .empty) ∧
      ∃ groups, instanceGroups specHelpers (runOps specHelpers [.add sampleGroup] .empty) =
          .ok groups ∧
        (clear specHelpers (runOps specHelpers [.add sampleGroup] .empty)).1 = .ok groups ∧
        isEmpty (clear specHelpers (runOps specHelpers [.add sampleGroup] .empty)).2 = true ∧
        getAcloudTranslatorOptout
            (clear specHelpers (runOps specHelpers [.add sampleGroup] .empty)).2 =
          getAcloudTranslatorOptout (runOps specHelpers [.add sampleGroup] .empty) :=
  ⟨by decide, clear_of_valid (by decide)⟩

/-- Under R3 the conflict query of line 81 finds nothing exactly when no stored group has
the new group's name and home. -/
theorem checkGroupConflict_eq_ok_iff {data : PersistentData} (hv : AllValid h data)
    {group : InstanceGroup} :
    checkGroupConflict h data group = .ok () ↔
      (group.name, group.homeDirectory) ∉ data.groupKeys := by
  obtain ⟨found, hfound, hmap⟩ := @findGroupsIn_of_valid h
    { home := some group.homeDirectory, groupName := some group.name } data.instanceGroups hv
  rw [checkGroupConflict_eq_ok, findGroups, hfound, Except.ok.injEq, ← List.map_eq_nil_iff, hmap,
    List.filter_eq_nil_iff]
  simp only [PersistentData.groupKeys, FindParam.selectsGroup, List.mem_map, Prod.mk.injEq]
  simp only [Option.all_some, beq_iff_eq, Option.all_none, Bool.and_true, Bool.and_eq_true,
    decide_eq_true_eq, not_and, not_exists]
  exact forall₂_congr fun _ _ =>
    ⟨fun H hn hh => H hh.symm hn.symm, fun H hh hn => H hn.symm hh.symm⟩

/-- Under R3 the id query of line 90 finds nothing exactly when the id is not stored. -/
theorem checkInstanceId_eq_ok_iff {data : PersistentData} (hv : AllValid h data) {i : Instance} :
    checkInstanceId h data i = .ok () ↔ i.id ∉ data.instanceIds := by
  rw [checkInstanceId_eq_ok, findInstances, findInstancesIn_of_valid h hv, Except.ok.injEq,
    List.flatMap_eq_nil_iff]
  simp [PersistentData.instanceIds, FindParam.instancesOf, FindParam.selectsInstance,
    List.filter_eq_nil_iff]
  exact forall₂_congr fun _ _ => forall₂_congr fun _ _ => ne_comm

/-- Under R3, `AddInstanceGroup` succeeds exactly when the checks before the lock pass, no
stored group has its name and home, no stored instance has one of its ids, and `Create`
accepts it. -/
theorem addInstanceGroup_isOk_iff {data : PersistentData} (hv : AllValid h data)
    {group : InstanceGroup} :
    (∃ g, (addInstanceGroup h group data).1 = .ok g) ↔
      addInstanceGroupChecks h group = .ok () ∧
      (group.name, group.homeDirectory) ∉ data.groupKeys ∧ ¬ data.SharesId group ∧
      h.createValid group = true := by
  simp only [addInstanceGroup_eq_ok, checkGroupConflict_eq_ok_iff hv, forM_eq_ok,
    checkInstanceId_eq_ok_iff hv, PersistentData.SharesId, not_exists, not_and]
  constructor
  · rintro ⟨g, hc, hk, hi, rfl⟩
    exact ⟨hc, hk, hi, g.valid⟩
  · rintro ⟨hc, hk, hi, hvalid⟩
    exact ⟨⟨group, hvalid⟩, hc, hk, hi, rfl⟩

private theorem except_ne_ok {ε α : Type} {x : Except ε α} (hx : ¬ ∃ a, x = .ok a) :
    ∃ e, x = .error e := by
  cases x with
  | error e => exact ⟨e, rfl⟩
  | ok a => exact absurd ⟨a, rfl⟩ hx

/-- On a registry satisfying R3 and a group that passes the checks before the lock:
a stored `(name, home)` pair or a stored id makes `AddInstanceGroup` fail and leave the
registry as it was; otherwise it appends the group when `Create` accepts it and fails
leaving the registry as it was when `Create` refuses it. -/
theorem addInstanceGroup_conflict_or_append {data : PersistentData} (hv : AllValid h data)
    {group : InstanceGroup} (hchecks : addInstanceGroupChecks h group = .ok ()) :
    ((group.name, group.homeDirectory) ∈ data.groupKeys ∨ data.SharesId group →
      (∃ e, (addInstanceGroup h group data).1 = .error e) ∧
        (addInstanceGroup h group data).2 = data) ∧
    ((group.name, group.homeDirectory) ∉ data.groupKeys → ¬ data.SharesId group →
      (h.createValid group = true → ∃ g, (addInstanceGroup h group data).1 = .ok g ∧
        g.proto = group ∧ (addInstanceGroup h group data).2 = data.append [group]) ∧
      (h.createValid group = false → (∃ e, (addInstanceGroup h group data).1 = .error e) ∧
        (addInstanceGroup h group data).2 = data)) := by
  have hfail : ¬ (∃ g, (addInstanceGroup h group data).1 = .ok g) →
      (∃ e, (addInstanceGroup h group data).1 = .error e) ∧
        (addInstanceGroup h group data).2 = data := fun hn =>
    let ⟨e, he⟩ := except_ne_ok hn
    ⟨⟨e, he⟩, addInstanceGroup_snd_of_error h he⟩
  refine ⟨fun hc => hfail ?_, fun hk hi => ⟨fun hvalid => ?_, fun hinvalid => hfail ?_⟩⟩
  · rw [addInstanceGroup_isOk_iff hv]
    rintro ⟨-, hk, hi, -⟩
    exact hc.elim hk hi
  · obtain ⟨g, hg⟩ := (addInstanceGroup_isOk_iff hv).mpr ⟨hchecks, hk, hi, hvalid⟩
    exact ⟨g, hg, ((addInstanceGroup_eq_ok h).mp hg).2.2.2, addInstanceGroup_snd_of_ok h hg⟩
  · rw [addInstanceGroup_isOk_iff hv]
    rintro ⟨-, -, -, hvalid⟩
    exact absurd hvalid (by simp [hinvalid])

theorem addInstanceGroup_conflict_or_append_sample :
    AllValid specHelpers .empty ∧
      addInstanceGroupChecks specHelpers sampleGroup = .ok () ∧
      (("cvd", "/home/vsoc-01") ∈ PersistentData.empty.groupKeys ∨
          PersistentData.empty.SharesId sampleGroup →
        (∃ e, (addInstanceGroup specHelpers sampleGroup
          .empty).1 = .error e) ∧
        (addInstanceGroup specHelpers sampleGroup .empty).2 =
          .empty) ∧
      (("cvd", "/home/vsoc-01") ∉ PersistentData.empty.groupKeys →
        ¬ PersistentData.empty.SharesId sampleGroup →
        (specHelpers.createValid sampleGroup = true →
          ∃ g, (addInstanceGroup specHelpers sampleGroup
            .empty).1 = .ok g ∧ g.proto = sampleGroup ∧
            (addInstanceGroup specHelpers sampleGroup
              .empty).2 = PersistentData.empty.append [sampleGroup]) ∧
        (specHelpers.createValid sampleGroup = false →
          (∃ e, (addInstanceGroup specHelpers sampleGroup
            .empty).1 = .error e) ∧
          (addInstanceGroup specHelpers sampleGroup .empty).2 =
            .empty)) :=
  ⟨by decide, rfl,
    @addInstanceGroup_conflict_or_append specHelpers .empty (by decide) sampleGroup rfl⟩

/-- A group at the home of a stored group but under another name passes every check of
`AddInstanceGroup` and is appended: line 81 asks for the `(name, home)` pair. -/
theorem addInstanceGroup_same_home_other_name :
    let stored : InstanceGroup := sampleGroup
    let group : InstanceGroup := ⟨"other", "/home/vsoc-01", "/host", [⟨2, "ins_2"⟩]⟩
    let r := runOps specHelpers [.add stored] .empty
    RegistryInvariant specHelpers r ∧ addInstanceGroupChecks specHelpers group = .ok () ∧
      (∃ g ∈ r.instanceGroups, g.homeDirectory = group.homeDirectory) ∧
      (addInstanceGroup specHelpers group r).2 = r.append [group] := by
  refine ⟨by decide, rfl, ⟨sampleGroup, by decide, rfl⟩,
    by decide⟩

/-! ### Rollback of a registration -/

/-- After a successful `AddInstanceGroup(g)`, `RemoveInstanceGroup(g.name)` returns true and
erases the first group named like `g`: `g` itself when no earlier group has that name,
and otherwise that earlier group, at another home, leaving `g` in place. -/
theorem removeInstanceGroup_after_addInstanceGroup {data : PersistentData}
    {group : InstanceGroup} {g : LocalInstanceGroup h}
    (hok : (addInstanceGroup h group data).1 = .ok g) :
    removeInstanceGroup group.name (addInstanceGroup h group data).2 =
      (.ok true, if data.instanceGroups.any (·.name == group.name) then
        { data with
          instanceGroups := data.instanceGroups.eraseP (·.name == group.name) ++ [group] }
      else data) := by
  rw [addInstanceGroup_snd_of_ok h hok, removeInstanceGroup_eq]
  by_cases hany : data.instanceGroups.any (·.name == group.name) = true <;>
    simp [PersistentData.append, List.eraseP_append, hany]

theorem removeInstanceGroup_after_addInstanceGroup_sample :
    (addInstanceGroup specHelpers sampleGroup .empty).1 =
        .ok ⟨sampleGroup, rfl⟩ ∧
      removeInstanceGroup "cvd"
          (addInstanceGroup specHelpers sampleGroup .empty).2 =
        (.ok true, if PersistentData.empty.instanceGroups.any (·.name == "cvd") then
          { PersistentData.empty with instanceGroups :=
            PersistentData.empty.instanceGroups.eraseP (·.name == "cvd") ++
              [sampleGroup] }
        else .empty) :=
  ⟨rfl, removeInstanceGroup_after_addInstanceGroup rfl⟩

/-- A registry holding `cvd` at one home, and a second `cvd` at another home added to it:
`RemoveInstanceGroup("cvd")` then erases the first one and keeps the group just added. -/
theorem removeInstanceGroup_after_add_erases_older :
    let r := runOps specHelpers [.add sampleGroup] .empty
    let group : InstanceGroup := ⟨"cvd", "/home/vsoc-02", "/host", [⟨2, "ins_2"⟩]⟩
    (∃ g, (addInstanceGroup specHelpers group r).1 = .ok g) ∧
      removeInstanceGroup group.name (addInstanceGroup specHelpers group r).2 ≠ (.ok true, r) :=
  ⟨⟨_, rfl⟩, fun heq => absurd (congrArg Prod.snd heq) (by decide)⟩

/-! ### R3 in every reachable state -/

theorem allValid_append {data : PersistentData} {groups : List InstanceGroup}
    (hv : AllValid h data) (hg : ∀ g ∈ groups, h.createValid g = true) :
    AllValid h (data.append groups) := by
  intro g hmem
  rcases List.mem_append.mp hmem with hd | hn
  · exact hv g hd
  · exact hg g hn

/-- Every operation keeps R3: the groups it stores have passed `Create`. -/
theorem AllValid.apply {data : PersistentData} (hv : AllValid h data) (op : DbOp) :
    AllValid h (op.apply h data) := by
  cases op with
  | add group =>
    cases hadd : (addInstanceGroup h group data).1 with
    | error e => simpa [DbOp.apply, addInstanceGroup_snd_of_error h hadd] using hv
    | ok g =>
      rw [DbOp.apply, addInstanceGroup_snd_of_ok h hadd]
      refine allValid_append hv ?_
      simpa [← ((addInstanceGroup_eq_ok h).mp hadd).2.2.2] using g.valid
  | remove groupName =>
    exact fun g hg => hv g (List.mem_of_mem_eraseP hg)
  | clear =>
    rcases clear_snd h data with hc | hc <;> simp only [DbOp.apply, hc]
    · exact fun g hg => absurd hg (List.not_mem_nil g)
    · exact hv
  | load dbJson =>
    rcases loadFromJson_snd h dbJson data with ⟨groups, -, hl⟩ | hl <;>
      simp only [DbOp.apply, hl]
    · exact allValid_append hv (by simpa using fun g _ => g.valid)
    · exact hv
  | setOptout optout => exact hv

/-- R3 holds after every sequence of operations from a registry where it holds. -/
theorem allValid_runOps {data : PersistentData} (hv : AllValid h data) (ops : List DbOp) :
    AllValid h (runOps h ops data) := by
  induction ops generalizing data with
  | nil => exact hv
  | cons op ops ih => exact ih (hv.apply op)

/-- The duplicate load of `loadFromJson_duplicate_breaks_invariant` keeps R3. -/
theorem allValid_runOps_load_twice :
    AllValid specHelpers .empty ∧
      AllValid specHelpers (runOps specHelpers [.add sampleGroup,
        .load (.obj [(kJsonGroups, .arr [sampleGroupJson, sampleGroupJson])])] .empty) :=
  ⟨by decide, allValid_runOps (by decide) _⟩

/-! ### R1 and R2 -/

theorem groupKeys_append (data : PersistentData) (groups : List InstanceGroup) :
    (data.append groups).groupKeys =
      data.groupKeys ++ groups.map fun g => (g.name, g.homeDirectory) := by
  simp [PersistentData.groupKeys, PersistentData.append]

theorem instanceIds_append (data : PersistentData) (groups : List InstanceGroup) :
    (data.append groups).instanceIds =
      data.instanceIds ++ groups.flatMap fun g => g.instances.map (·.id) := by
  simp [PersistentData.instanceIds, PersistentData.append]

private theorem flatMap_sublist_of_sublist {α β : Type} (f : α → List β) :
    ∀ {l₁ l₂ : List α}, l₁.Sublist l₂ → (l₁.flatMap f).Sublist (l₂.flatMap f)
  | _, _, .slnil => .slnil
  | _, _, .cons a hl => by
    simpa using (flatMap_sublist_of_sublist f hl).trans (List.sublist_append_right (f a) _)
  | _, _, .cons₂ a hl => by simpa using (flatMap_sublist_of_sublist f hl).append_left (f a)

/-- Erasing stored groups keeps R1–R3. -/
theorem RegistryInvariant.of_sublist {data data' : PersistentData}
    (hi : RegistryInvariant h data) (hsub : data'.instanceGroups.Sublist data.instanceGroups) :
    RegistryInvariant h data' :=
  ⟨hi.uniqueKeys.sublist (hsub.map _), hi.uniqueIds.sublist (flatMap_sublist_of_sublist _ hsub),
    fun g hg => hi.valid g (hsub.subset hg)⟩

/-- `AddInstanceGroup` keeps R1–R3 when `Create` refuses a group that repeats an id:
its checks see every stored key and id, but not the new group's own ids. -/
theorem addInstanceGroup_invariant {data : PersistentData} (hi : RegistryInvariant h data)
    (group : InstanceGroup)
    (hrep : h.createValid group = true → (group.instances.map (·.id)).Nodup) :
    RegistryInvariant h (addInstanceGroup h group data).2 := by
  cases hadd : (addInstanceGroup h group data).1 with
  | error e => rwa [addInstanceGroup_snd_of_error h hadd]
  | ok g =>
    obtain ⟨-, hk, hid, hvalid⟩ := (addInstanceGroup_isOk_iff hi.valid).mp ⟨g, hadd⟩
    rw [addInstanceGroup_snd_of_ok h hadd]
    refine ⟨?_, ?_, allValid_append hi.valid (by simpa using hvalid)⟩
    · rw [groupKeys_append]
      exact hi.uniqueKeys.append (by simp) (by simpa using hk)
    · rw [instanceIds_append]
      refine hi.uniqueIds.append (by simpa using hrep hvalid) ?_
      simp only [List.flatMap_cons, List.flatMap_nil, List.append_nil]
      exact List.disjoint_left.mpr fun a ha hb => by
        obtain ⟨i, hi, rfl⟩ := List.mem_map.mp hb
        exact hid ⟨i, hi, ha⟩

/-- `RemoveInstanceGroup` keeps R1–R3: it erases a group. -/
theorem removeInstanceGroup_invariant {data : PersistentData}
    (hi : RegistryInvariant h data) (groupName : String) :
    RegistryInvariant h (removeInstanceGroup groupName data).2 :=
  hi.of_sublist (List.eraseP_sublist _)

/-- `Clear` keeps R1–R3: it empties the registry or changes nothing. -/
theorem clear_invariant {data : PersistentData} (hi : RegistryInvariant h data) :
    RegistryInvariant h (Selector.clear h data).2 := by
  rcases clear_snd h data with hc | hc <;> rw [hc]
  · exact ⟨List.nodup_nil, List.nodup_nil, fun g hg => absurd hg (List.not_mem_nil g)⟩
  · exact hi

/-- The registry transitions other than `LoadFromJson`. -/
def DbOp.checked : DbOp → Bool
  | .load _ => false
  | _ => true

/-- Every transition other than `LoadFromJson` keeps R1–R3 when `Create` refuses a group
that repeats an id. -/
theorem RegistryInvariant.apply {data : PersistentData} (hi : RegistryInvariant h data)
    (hrep : ∀ group : InstanceGroup,
      h.createValid group = true → (group.instances.map (·.id)).Nodup)
    {op : DbOp} (hop : op.checked = true) : RegistryInvariant h (op.apply h data) := by
  cases op with
  | add group => exact addInstanceGroup_invariant hi group (hrep group)
  | remove groupName => exact removeInstanceGroup_invariant hi groupName
  | clear => exact clear_invariant hi
  | load dbJson => cases hop
  | setOptout optout => exact ⟨hi.uniqueKeys, hi.uniqueIds, hi.valid⟩

/-- The empty registry satisfies R1–R3. -/
theorem RegistryInvariant.empty : RegistryInvariant h .empty :=
  ⟨List.nodup_nil, List.nodup_nil, fun g hg => absurd hg (List.not_mem_nil g)⟩

/-- Every run of transitions other than `LoadFromJson` keeps R1–R3 when `Create` refuses
a group that repeats an id. -/
theorem registryInvariant_runOps {data : PersistentData} (hi : RegistryInvariant h data)
    (hrep : ∀ group : InstanceGroup,
      h.createValid group = true → (group.instances.map (·.id)).Nodup)
    {ops : List DbOp} (hops : ∀ op ∈ ops, op.checked = true) :
    RegistryInvariant h (runOps h ops data) := by
  induction ops generalizing data with
  | nil => exact hi
  | cons op ops ih =>
    simp only [List.mem_cons, forall_eq_or_imp] at hops
    exact ih (hi.apply hrep hops.1) hops.2

/-- The helpers of the spec, with a `Create` that also refuses a group repeating an id. -/
def distinctIdHelpers : Helpers :=
  { specHelpers with
    createValid := fun g => specHelpers.createValid g && decide (g.instances.map (·.id)).Nodup }

theorem distinctIdHelpers_createValid_nodup (group : InstanceGroup)
    (hg : distinctIdHelpers.createValid group = true) : (group.instances.map (·.id)).Nodup := by
  simp only [distinctIdHelpers, Bool.and_eq_true, decide_eq_true_eq] at hg
  exact hg.2

/-- Adding the sample group twice and removing it keeps R1–R3. -/
theorem registryInvariant_runOps_add_twice :
    RegistryInvariant distinctIdHelpers .empty ∧
      (∀ group : InstanceGroup, distinctIdHelpers.createValid group = true →
        (group.instances.map (·.id)).Nodup) ∧
      (∀ op ∈ [DbOp.add sampleGroup, .add sampleGroup, .remove "cvd"], op.checked = true) ∧
      RegistryInvariant distinctIdHelpers
        (runOps distinctIdHelpers [.add sampleGroup, .add sampleGroup, .remove "cvd"] .empty) :=
  have hrep : ∀ group : InstanceGroup, distinctIdHelpers.createValid group = true →
      (group.instances.map (·.id)).Nodup := fun _ hg => by
    simp only [distinctIdHelpers, Bool.and_eq_true, decide_eq_true_eq] at hg
    exact hg.2
  ⟨by decide, hrep, by decide, registryInvariant_runOps (by decide) hrep (by decide)⟩

/-- `LoadFromJson` appends what it deserialized without `AddInstanceGroup`'s conflict
checks: a group listed twice is stored twice, so R1 fails. -/
theorem loadFromJson_duplicate_breaks_invariant {json : Json} {g : LocalInstanceGroup h}
    (hjson : LocalInstanceGroup.deserialize json = .ok g) :
    ¬ RegistryInvariant h (runOps h [.load (.obj [(kJsonGroups, .arr [json, json])])] .empty) := by
  have hread : readJsonGroups h (.obj [(kJsonGroups, .arr [json, json])]) = .ok [g, g] := by
    simp only [readJsonGroups, Json.member?_obj_cons_self]
    rw [List.mapM_cons, List.mapM_cons, hjson]
    rfl
  intro hi
  have hk := hi.uniqueKeys
  simp [runOps, DbOp.apply, loadFromJson, hread, withExclusiveLock, PersistentData.groupKeys,
    PersistentData.empty] at hk

theorem loadFromJson_duplicate_breaks_invariant_sample :
    LocalInstanceGroup.deserialize (h := specHelpers) sampleGroupJson =
        .ok ⟨sampleGroup, rfl⟩ ∧
      ¬ RegistryInvariant specHelpers
        (runOps specHelpers
          [.load (.obj [(kJsonGroups, .arr [sampleGroupJson, sampleGroupJson])])] .empty) :=
  ⟨rfl, loadFromJson_duplicate_breaks_invariant rfl⟩

end Cuttlefish.Selector
