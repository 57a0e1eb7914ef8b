import Mathlib.Data.List.Perm.Subperm
import Cuttlefish.Common.Decimal
import Cuttlefish.Selector.Registry

/-!
# Lookups in a registry that keeps R1–R3

What §3's invariants give the selector's queries, `instance_database.cpp:157–209`.
`AddInstanceGroup` (lines 65–102) and the two queries obey the laws of a finite map: once a
group is added, the lookup by its name and home finds it alone and the lookup by one of its
ids finds that instance alone, while a query that selects none of it answers as it did
before (`addInstanceGroup_find`). On every registry keeping R1–R3, the lookup by a name and
a home finds at most one group and the lookup by an id at most one instance
(`lookup_unique`); R2 and R3 alone give the instances it lists internal names of their own,
the decimal text of their ids (`findInstances_internalNames_nodup`).
-/

namespace Cuttlefish.Selector

open Cuttlefish

variable {h : Helpers}

/-! ### The two lookups by key -/

theorem selectsGroup_key_iff (name home : String) (g : InstanceGroup) :
    FindParam.selectsGroup { home := some home, groupName := some name } g = true ↔
      (g.name, g.homeDirectory) = (name, home) := by
  simp only [FindParam.selectsGroup, Option.all_some, Option.all_none, Bool.and_true,
    Bool.and_eq_true, beq_iff_eq, Prod.mk.injEq]
  exact ⟨fun ⟨hh, hn⟩ => ⟨hn.symm, hh.symm⟩, fun ⟨hn, hh⟩ => ⟨hh.symm, hn.symm⟩⟩

theorem selectsInstance_id (id : UInt32) (g : InstanceGroup) :
    FindParam.selectsInstance { id := some id } g = fun i => id == i.id := by
  funext i
  simp [FindParam.selectsInstance]

/-- In a list of instances with distinct ids, the instances of one's id are that one. -/
theorem filter_id_eq_singleton {l : List Instance} (hl : (l.map (·.id)).Nodup) {i : Instance}
    (hi : i ∈ l) : l.filter (fun j => i.id == j.id) = [i] := by
  induction l with
  | nil => cases hi
  | cons x xs ih =>
    rw [List.map_cons, List.nodup_cons, List.mem_map] at hl
    rcases List.mem_cons.1 hi with rfl | hi
    · rw [List.filter_cons_of_pos (by simp), List.filter_eq_nil_iff.2]
      rintro y hy hid
      exact hl.1 ⟨y, hy, (beq_iff_eq.1 hid).symm⟩
    · rw [List.filter_cons_of_neg, ih hl.2 hi]
      rintro hid
      exact hl.1 ⟨i, hi, beq_iff_eq.1 hid⟩

/-- A nodup list whose entries are all `a` has at most one entry. -/
theorem length_le_one_of_forall_eq {α : Type} {l : List α} (hl : l.Nodup) {a : α}
    (hall : ∀ x ∈ l, x = a) : l.length ≤ 1 :=
  (hl.subperm fun x hx => List.mem_singleton.2 (hall x hx)).length_le

theorem flatMap_sublist_flatMap {α β : Type} {f g : α → List β}
    (hfg : ∀ a, (f a).Sublist (g a)) : ∀ l : List α, (l.flatMap f).Sublist (l.flatMap g)
  | [] => .slnil
  | a :: l => by
    simpa only [List.flatMap_cons] using (hfg a).append (flatMap_sublist_flatMap hfg l)

/-! ### The queries over a registry with a group appended -/

theorem findGroupsIn_append (param : FindParam) (l₁ l₂ : List InstanceGroup) :
    findGroupsIn h param (l₁ ++ l₂) = (do
      let a ← findGroupsIn h param l₁
      let b ← findGroupsIn h param l₂
      return a ++ b) := by
  induction l₁ with
  | nil => rw [List.nil_append]; cases findGroupsIn h param l₂ <;> rfl
  | cons g l₁ ih =>
    rw [List.cons_append, findGroupsIn, ih, findGroupsIn]
    cases matchGroup h param g <;> cases findGroupsIn h param l₁ <;>
      cases findGroupsIn h param l₂ <;> simp

theorem findInstancesIn_append (param : FindParam) (l₁ l₂ : List InstanceGroup) :
    findInstancesIn h param (l₁ ++ l₂) = (do
      let a ← findInstancesIn h param l₁
      let b ← findInstancesIn h param l₂
      return a ++ b) := by
  induction l₁ with
  | nil => rw [List.nil_append]; cases findInstancesIn h param l₂ <;> rfl
  | cons g l₁ ih =>
    rw [List.cons_append, findInstancesIn, ih, findInstancesIn]
    cases matchInstances h param g <;> cases findInstancesIn h param l₁ <;>
      cases findInstancesIn h param l₂ <;> simp

theorem findGroups_append (data : PersistentData) (group : InstanceGroup)
    {param : FindParam} (hv : h.createValid group = true) :
    findGroups h (data.append [group]) param = (fun found =>
      found ++ if param.selectsGroup group then [⟨group, hv⟩] else []) <$>
        findGroups h data param := by
  rw [findGroups, findGroups, PersistentData.append, findGroupsIn_append]
  cases findGroupsIn h param data.instanceGroups <;>
    simp only [findGroupsIn, matchGroup_of_valid h hv] <;> split <;> rfl

theorem findInstances_append (data : PersistentData) (group : InstanceGroup)
    {param : FindParam} (hv : h.createValid group = true) :
    findInstances h (data.append [group]) param =
      (· ++ param.instancesOf group) <$> findInstances h data param := by
  rw [findInstances, findInstances, PersistentData.append, findInstancesIn_append]
  cases findInstancesIn h param data.instanceGroups <;>
    simp [findInstancesIn, matchInstances_of_valid h hv]

/-! ### `AddInstanceGroup` and the lookups -/

section Add

variable {data : PersistentData} {group : InstanceGroup} {g : LocalInstanceGroup h}

/-- The group `AddInstanceGroup` created is the proto it stored. -/
theorem eq_mk_of_addInstanceGroup (hadd : (addInstanceGroup h group data).1 = .ok g) :
    ∃ hv, g = ⟨group, hv⟩ :=
  ⟨((addInstanceGroup_eq_ok h).mp hadd).2.2.2 ▸ g.valid,
    LocalInstanceGroup.ext ((addInstanceGroup_eq_ok h).mp hadd).2.2.2⟩

/-- A query that selects neither the added group nor one of its instances answers as
before. -/
theorem find_after_add_other (hadd : (addInstanceGroup h group data).1 = .ok g)
    {param : FindParam} :
    (param.selectsGroup group = false →
      findGroups h (addInstanceGroup h group data).2 param = findGroups h data param) ∧
    ((∀ i ∈ group.instances, param.selectsInstance group i = false) →
      findInstances h (addInstanceGroup h group data).2 param = findInstances h data param) := by
  obtain ⟨hv, -⟩ := eq_mk_of_addInstanceGroup hadd
  rw [addInstanceGroup_snd_of_ok h hadd, findGroups_append data group hv,
    findInstances_append data group hv]
  refine ⟨fun hsel => ?_, fun hsel => ?_⟩
  · cases findGroups h data param <;> simp [hsel]
  · have hnil : param.instancesOf group = [] := by
      simpa [FindParam.instancesOf, List.filter_eq_nil_iff] using hsel
    cases findInstances h data param <;> simp [hnil]

variable (hi : RegistryInvariant h data)
include hi

/-- After a successful `AddInstanceGroup` on a registry keeping R1 and R3, the lookup by the
group's name and home finds the created group alone. -/
theorem findGroups_key_after_add (hadd : (addInstanceGroup h group data).1 = .ok g) :
    findGroups h (addInstanceGroup h group data).2
      { home := some group.homeDirectory, groupName := some group.name } = .ok [g] := by
  obtain ⟨-, hk, -, -⟩ := (addInstanceGroup_isOk_iff hi.valid).mp ⟨g, hadd⟩
  obtain ⟨hv, rfl⟩ := eq_mk_of_addInstanceGroup hadd
  obtain ⟨found, hfound, hmap⟩ := @findGroupsIn_of_valid h
    { home := some group.homeDirectory, groupName := some group.name } _ hi.valid
  have hnil : found = [] := by
    rw [← List.map_eq_nil_iff, hmap, List.filter_eq_nil_iff]
    intro g' hg' hsel
    rw [selectsGroup_key_iff] at hsel
    exact hk (hsel ▸ List.mem_map_of_mem _ hg')
  rw [addInstanceGroup_snd_of_ok h hadd, findGroups_append data group hv, findGroups, hfound,
    hnil]
  simp [(selectsGroup_key_iff _ _ group).2 rfl]

/-- After a successful `AddInstanceGroup` on a registry keeping R2 and R3, the lookup by the
id of one of the group's instances finds that instance alone, when the group repeats no
id. -/
theorem findInstances_id_after_add (hnodup : (group.instances.map (·.id)).Nodup)
    (hadd : (addInstanceGroup h group data).1 = .ok g) {i : Instance}
    (hin : i ∈ group.instances) :
    findInstances h (addInstanceGroup h group data).2 { id := some i.id } =
      .ok [⟨i.id, group.name, i.name⟩] := by
  obtain ⟨-, -, hid, hv⟩ := (addInstanceGroup_isOk_iff hi.valid).mp ⟨g, hadd⟩
  have hnil : data.instanceGroups.flatMap (FindParam.instancesOf { id := some i.id }) = [] := by
    refine List.flatMap_eq_nil_iff.2 fun g' hg' => List.map_eq_nil_iff.2 ?_
    refine List.filter_eq_nil_iff.2 fun j hj hsel => hid ⟨i, hin, ?_⟩
    simp only [selectsInstance_id, beq_iff_eq] at hsel
    exact List.mem_flatMap.2 ⟨g', hg', hsel ▸ List.mem_map_of_mem _ hj⟩
  rw [addInstanceGroup_snd_of_ok h hadd, findInstances_append data group hv, findInstances,
    findInstancesIn_of_valid h hi.valid, hnil]
  simp only [FindParam.instancesOf, selectsInstance_id, filter_id_eq_singleton hnodup hin]
  rfl

end Add

/-- From a registry keeping R1–R3, `AddInstanceGroup` and the two queries obey the laws of a
finite map: once the group is added, the lookup by its name and home finds it alone, the
lookup by the id of one of its instances finds that instance alone (when the group repeats
no id), and a query that selects neither the group nor one of its instances answers as it
did before. -/
theorem addInstanceGroup_find {data : PersistentData} (hi : RegistryInvariant h data)
    {group : InstanceGroup} {g : LocalInstanceGroup h}
    (hadd : (addInstanceGroup h group data).1 = .ok g) :
    findGroups h (addInstanceGroup h group data).2
        { home := some group.homeDirectory, groupName := some group.name } = .ok [g] ∧
      ((group.instances.map (·.id)).Nodup → ∀ i ∈ group.instances,
        findInstances h (addInstanceGroup h group data).2 { id := some i.id } =
          .ok [⟨i.id, group.name, i.name⟩]) ∧
      ∀ param : FindParam,
        (param.selectsGroup group = false →
          findGroups h (addInstanceGroup h group data).2 param = findGroups h data param) ∧
        ((∀ i ∈ group.instances, param.selectsInstance group i = false) →
          findInstances h (addInstanceGroup h group data).2 param = findInstances h data param) :=
  ⟨findGroups_key_after_add hi hadd,
    fun hnodup _ hin => findInstances_id_after_add hi hnodup hadd hin,
    fun _ => find_after_add_other hadd⟩

theorem addInstanceGroup_find_sample :
    RegistryInvariant specHelpers .empty ∧
      (addInstanceGroup specHelpers sampleGroup .empty).1 = .ok ⟨sampleGroup, rfl⟩ ∧
      findGroups specHelpers (addInstanceGroup specHelpers sampleGroup .empty).2
          { home := some sampleGroup.homeDirectory, groupName := some sampleGroup.name } =
        .ok [⟨sampleGroup, rfl⟩] ∧
      ((sampleGroup.instances.map (·.id)).Nodup → ∀ i ∈ sampleGroup.instances,
        findInstances specHelpers (addInstanceGroup specHelpers sampleGroup .empty).2
          { id := some i.id } = .ok [⟨i.id, sampleGroup.name, i.name⟩]) ∧
      ∀ param : FindParam,
        (param.selectsGroup sampleGroup = false →
          findGroups specHelpers (addInstanceGroup specHelpers sampleGroup .empty).2
            param = findGroups specHelpers .empty param) ∧
        ((∀ i ∈ sampleGroup.instances, param.selectsInstance sampleGroup i = false) →
          findInstances specHelpers
            (addInstanceGroup specHelpers sampleGroup .empty).2 param =
              findInstances specHelpers .empty param) :=
  have hadd : (addInstanceGroup specHelpers sampleGroup .empty).1 =
      .ok ⟨sampleGroup, rfl⟩ := rfl
  ⟨by decide, hadd, addInstanceGroup_find (by decide) hadd⟩

/-! ### Lookups on any registry keeping R1–R3 -/

/-- On a registry keeping R1–R3, the lookup by a name and a home finds at most one group,
and the lookup by an instance id at most one instance: the keys the selector picks a device
by name one device. -/
theorem lookup_unique {data : PersistentData} (hi : RegistryInvariant h data)
    (name home : String) (id : UInt32) :
    (∃ found, findGroups h data { home := some home, groupName := some name } = .ok found ∧
      found.length ≤ 1) ∧
    ∃ found, findInstances h data { id := some id } = .ok found ∧ found.length ≤ 1 := by
  refine ⟨?_, ⟨_, findInstancesIn_of_valid h hi.valid, ?_⟩⟩
  · obtain ⟨found, hfound, hmap⟩ := @findGroupsIn_of_valid h
      { home := some home, groupName := some name } _ hi.valid
    refine ⟨found, hfound, ?_⟩
    have hkeys := hi.uniqueKeys.sublist ((List.filter_sublist
      (p := FindParam.selectsGroup { home := some home, groupName := some name })
      data.instanceGroups).map fun g : InstanceGroup => (g.name, g.homeDirectory))
    have hle := length_le_one_of_forall_eq hkeys (a := (name, home)) fun k hk => by
      obtain ⟨g, hg, rfl⟩ := List.mem_map.1 hk
      exact (selectsGroup_key_iff name home g).1 (List.mem_filter.1 hg).2
    rw [← List.length_map found (·.proto), hmap]
    simpa using hle
  · have hids : ((data.instanceGroups.flatMap (FindParam.instancesOf { id := some id })).map
        (·.instanceId)).Nodup := by
      refine hi.uniqueIds.sublist ?_
      rw [List.map_flatMap]
      exact flatMap_sublist_flatMap (fun g => by
        simpa [FindParam.instancesOf, List.map_map] using (List.filter_sublist _).map _) _
    have hle := length_le_one_of_forall_eq hids (a := id) fun k hk => by
      simp only [List.mem_map, List.mem_flatMap, FindParam.instancesOf, List.mem_filter,
        selectsInstance_id, beq_iff_eq] at hk
      obtain ⟨_, ⟨_, -, j, ⟨-, rfl⟩, rfl⟩, rfl⟩ := hk
      rfl
    simpa using hle

theorem lookup_unique_sample :
    RegistryInvariant specHelpers (runOps specHelpers [.add sampleGroup] .empty) ∧
      (∃ found, findGroups specHelpers (runOps specHelpers [.add sampleGroup] .empty)
          { home := some "/home/vsoc-01", groupName := some "cvd" } = .ok found ∧
        found.length ≤ 1) ∧
      ∃ found, findInstances specHelpers (runOps specHelpers [.add sampleGroup] .empty)
        { id := some 1 } = .ok found ∧ found.length ≤ 1 :=
  ⟨by decide, lookup_unique (by decide) "cvd" "/home/vsoc-01" 1⟩

/-- The internal name reads back, as a decimal, to the id it was made from. -/
theorem parseUnsigned_internalName (i : LocalInstance) :
    parseUnsigned i.internalName = some i.instanceId.toNat :=
  parseUnsigned_repr _

theorem internalName_injective :
    Function.Injective fun id : UInt32 => (⟨id, "", ""⟩ : LocalInstance).internalName := by
  intro a b hab
  have hparse := congrArg parseUnsigned hab
  simp only [parseUnsigned_internalName, Option.some.injEq] at hparse
  exact UInt32.toNat.inj hparse

/-- On a registry keeping R2 and R3, the instances `FindInstances` lists for the empty filter
have pairwise different internal names. -/
theorem findInstances_internalNames_nodup {data : PersistentData}
    (hids : data.instanceIds.Nodup) (hv : AllValid h data) :
    ∃ found, findInstances h data {} = .ok found ∧ (found.map (·.internalName)).Nodup := by
  refine ⟨_, findInstancesIn_of_valid h hv, ?_⟩
  have hall : FindParam.instancesOf {} = fun g : InstanceGroup =>
      g.instances.map fun i => (⟨i.id, g.name, i.name⟩ : LocalInstance) := by
    funext g
    exact congrArg (List.map _) (List.filter_true _)
  have hnames : (data.instanceGroups.flatMap (FindParam.instancesOf {})).map (·.internalName) =
      data.instanceIds.map fun id => (⟨id, "", ""⟩ : LocalInstance).internalName := by
    simp only [hall, PersistentData.instanceIds, List.map_flatMap, List.map_map]
    rfl
  rw [hnames]
  exact hids.map internalName_injective

theorem findInstances_internalNames_nodup_sample :
    (runOps specHelpers [.add sampleGroup] .empty).instanceIds.Nodup ∧
      AllValid specHelpers (runOps specHelpers [.add sampleGroup] .empty) ∧
      ∃ found, findInstances specHelpers (runOps specHelpers [.add sampleGroup] .empty) {} =
        .ok found ∧ (found.map (·.internalName)).Nodup :=
  ⟨by decide, by decide, findInstances_internalNames_nodup (by decide) (by decide)⟩

end Cuttlefish.Selector
