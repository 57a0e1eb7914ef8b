import Mathlib.Data.List.Basic

/-!
# The flag parser

`ConsumeDaemonModeFlag` (`server_command/start.cpp:559–600`) and
`UpdateInstanceArgsAndEnvs` (lines 372–431) strip flags from an argument list with `Flag`,
`GflagsCompatFlag` and `ConsumeFlags` of the flag library (`common/libs/utils/flag_parser`),
which is not in the repository. The definitions below are modelled from the spec ("consume
and discard" the instance flags from the raw args) and from the library interface the two
callers use: a flag is a list of aliases and a setter; an alias matches an argument by
prefix (the key is the alias name and the value the rest of the argument), exactly (key
and value are both the argument), or exactly with the next argument as value; the first
alias that matches decides, and the setter's error aborts the whole parse.

The results: a successful `consumeFlags` keeps a sublist of the arguments, none of which a
flag matches (`consumeFlags_spec`); it leaves an argument list no flag matches unchanged
(`consumeFlags_of_unmatched`); and it steps over such arguments
(`consumeFlags_append_of_unmatched`).
-/

namespace Cuttlefish

/-- Modelled from the spec: `FlagAliasMode` of the flag library, the three modes the modelled
flags use. -/
inductive FlagAliasMode where
  /-- `kFlagPrefix`: the argument starts with the alias name. -/
  | flagPrefix
  /-- `kFlagExact`: the argument is the alias name. -/
  | flagExact
  /-- `kFlagConsumesFollowing`: the argument is the alias name, the next one its value. -/
  | flagConsumesFollowing
  deriving DecidableEq, Repr

/-- Modelled from the spec: `FlagAlias`. -/
structure FlagAlias where
  mode : FlagAliasMode
  name : String
  deriving DecidableEq, Repr

/-- Modelled from the spec: `FlagMatch`, what a setter is given. -/
structure FlagMatch where
  key : String
  value : String
  deriving DecidableEq, Repr

/-- Modelled from the spec: `Flag::FlagProcessResult`. -/
inductive FlagProcessResult where
  | flagSkip
  | flagConsumed
  | flagConsumedWithFollowing
  deriving DecidableEq, Repr

/-- Modelled from the spec: a `Flag`, its aliases in order and its setter. -/
structure Flag where
  aliases : List FlagAlias
  setter : FlagMatch → Except String Unit

/-- Whether an alias matches an argument (`StartsWith` for a prefix alias, `==` otherwise). -/
def FlagAlias.matches (a : FlagAlias) (arg : String) : Bool :=
  match a.mode with
  | .flagPrefix => a.name.data.isPrefixOf arg.data
  | .flagExact | .flagConsumesFollowing => arg == a.name

/-- Whether some alias of the flag matches the argument. -/
def Flag.matches (flag : Flag) (arg : String) : Bool := flag.aliases.any (·.matches arg)

/-- Modelled from the spec: `Flag::Process`, the aliases tried in order. -/
def processAliases (setter : FlagMatch → Except String Unit) (arg : String)
    (nextArg : Option String) : List FlagAlias → Except String FlagProcessResult
  | [] => .ok .flagSkip
  | a :: rest =>
    if a.matches arg then
      match a.mode, nextArg with
      | .flagPrefix, _ =>
        (fun () => .flagConsumed) <$> setter ⟨a.name, ⟨arg.data.drop a.name.length⟩⟩
      | .flagExact, _ => (fun () => .flagConsumed) <$> setter ⟨arg, arg⟩
      | .flagConsumesFollowing, none => .error ("Expected an argument after \"" ++ arg ++ "\"")
      | .flagConsumesFollowing, some next =>
        (fun () => .flagConsumedWithFollowing) <$> setter ⟨arg, next⟩
    else processAliases setter arg nextArg rest

/-- Modelled from the spec: `Flag::Process`. -/
def Flag.process (flag : Flag) (arg : String) (nextArg : Option String) :
    Except String FlagProcessResult :=
  processAliases flag.setter arg nextArg flag.aliases

/-- Modelled from the spec: the inner loop of `ConsumeFlags`, the first flag that does not
skip the argument decides. -/
def processFlags (flags : List Flag) (arg : String) (nextArg : Option String) :
    Except String FlagProcessResult :=
  match flags with
  | [] => .ok .flagSkip
  | flag :: rest =>
    match flag.process arg nextArg with
    | .ok .flagSkip => processFlags rest arg nextArg
    | r => r

/-- Modelled from the spec: the loop of `ConsumeFlags` over the arguments. `pending` says the
first argument is the value the previous flag consumed, erased together with it. -/
def consumeFlagsLoop (flags : List Flag) : Bool → List String → Except String (List String)
  | _, [] => .ok []
  | true, _ :: rest => consumeFlagsLoop flags false rest
  | false, arg :: rest =>
    match processFlags flags arg rest.head? with
    | .error e => .error e
    | .ok .flagSkip => (arg :: ·) <$> consumeFlagsLoop flags false rest
    | .ok .flagConsumed => consumeFlagsLoop flags false rest
    | .ok .flagConsumedWithFollowing => consumeFlagsLoop flags true rest

/-- Modelled from the spec: `ConsumeFlags(flags, args)`, the arguments left once every
matched one (and the value it consumes) is erased. -/
def consumeFlags (flags : List Flag) (args : List String) : Except String (List String) :=
  consumeFlagsLoop flags false args

/-- Modelled from the spec: `GflagsCompatFlag(name, value)`, whose setter stores the value
(in a variable nothing modelled reads). -/
def gflagsCompatFlag (name : String) : Flag where
  aliases := [⟨.flagPrefix, "-" ++ name ++ "="⟩, ⟨.flagPrefix, "--" ++ name ++ "="⟩,
    ⟨.flagConsumesFollowing, "-" ++ name⟩, ⟨.flagConsumesFollowing, "--" ++ name⟩]
  setter _ := .ok ()

/-! ### Matching -/

theorem isPrefixOf_data_iff {p arg : String} :
    p.data.isPrefixOf arg.data = true ↔ ∃ v, arg = p ++ v := by
  rw [List.isPrefixOf_iff_prefix]
  constructor
  · rintro ⟨t, ht⟩
    exact ⟨⟨t⟩, String.ext (by simp [← ht])⟩
  · rintro ⟨v, rfl⟩
    exact List.prefix_append _ _

theorem drop_length_append (p v : String) : (⟨(p.data ++ v.data).drop p.length⟩ : String) = v :=
  String.ext (List.drop_left _ _)

/-- A prefix alias hands the setter its name as key and the rest of the argument as value. -/
theorem processAliases_prefix (setter : FlagMatch → Except String Unit) (p v : String)
    (nextArg : Option String) (rest : List FlagAlias) :
    processAliases setter (p ++ v) nextArg (⟨.flagPrefix, p⟩ :: rest) =
      (fun () => .flagConsumed) <$> setter ⟨p, v⟩ := by
  simp [processAliases, FlagAlias.matches, isPrefixOf_data_iff, drop_length_append]

theorem processAliases_cons_of_not_matches (setter : FlagMatch → Except String Unit)
    {arg : String} (nextArg : Option String) {a : FlagAlias} (rest : List FlagAlias)
    (h : a.matches arg = false) :
    processAliases setter arg nextArg (a :: rest) = processAliases setter arg nextArg rest := by
  simp [processAliases, h]

/-! ### Skipping -/

/-- No flag of the list matches the argument. -/
def Unmatched (flags : List Flag) (arg : String) : Prop := ∀ f ∈ flags, f.matches arg = false

instance (flags : List Flag) (arg : String) : Decidable (Unmatched flags arg) :=
  inferInstanceAs (Decidable (∀ f ∈ flags, _))

theorem map_ne_flagSkip (r : FlagProcessResult) (hr : r ≠ .flagSkip) (x : Except String Unit) :
    (fun () => r) <$> x ≠ .ok .flagSkip := by
  cases x <;> simp [Functor.map, Except.map, hr]

theorem processAliases_eq_skip (setter : FlagMatch → Except String Unit) (arg : String)
    (nextArg : Option String) (aliases : List FlagAlias) :
    processAliases setter arg nextArg aliases = .ok .flagSkip ↔
      aliases.any (·.matches arg) = false := by
  induction aliases with
  | nil => simp [processAliases]
  | cons a rest ih =>
    by_cases hm : a.matches arg
    · refine iff_of_false ?_ (by simp [hm])
      simp only [processAliases, hm, if_true]
      split
      · exact map_ne_flagSkip .flagConsumed (by decide) _
      · exact map_ne_flagSkip .flagConsumed (by decide) _
      · simp
      · exact map_ne_flagSkip .flagConsumedWithFollowing (by decide) _
    · simp [processAliases, hm, ih]

theorem processFlags_eq_skip (flags : List Flag) (arg : String) (nextArg : Option String) :
    processFlags flags arg nextArg = .ok .flagSkip ↔ Unmatched flags arg := by
  induction flags with
  | nil => simp [processFlags, Unmatched]
  | cons f rest ih =>
    have hf := processAliases_eq_skip f.setter arg nextArg f.aliases
    simp only [Flag.process] at hf ⊢
    simp only [processFlags, Flag.process, Unmatched, List.forall_mem_cons] at ih ⊢
    split
    · rw [ih]; simp_all [Flag.matches]
    · rename_i r hr
      simp only [Flag.matches, ← hf]
      constructor
      · intro h; simp_all
      · rintro ⟨h, -⟩; exact absurd h hr

/-- An argument no flag matches is skipped whatever follows it. -/
theorem consumeFlags_cons_of_unmatched {flags : List Flag} {arg : String} (rest : List String)
    (h : Unmatched flags arg) :
    consumeFlags flags (arg :: rest) = (arg :: ·) <$> consumeFlags flags rest := by
  simp only [consumeFlags, consumeFlagsLoop, (processFlags_eq_skip flags arg rest.head?).2 h]

theorem consumeFlags_append_of_unmatched {flags : List Flag} {xs : List String}
    (hxs : ∀ a ∈ xs, Unmatched flags a) (ys : List String) :
    consumeFlags flags (xs ++ ys) = (xs ++ ·) <$> consumeFlags flags ys := by
  induction xs with
  | nil => rw [List.nil_append]; cases consumeFlags flags ys <;> rfl
  | cons x xs ih =>
    rw [List.cons_append, consumeFlags_cons_of_unmatched _ (hxs x (by simp)),
      ih fun a ha => hxs a (by simp [ha])]
    cases consumeFlags flags ys <;> rfl

/-- `ConsumeFlags` leaves an argument list no flag matches as it is. -/
theorem consumeFlags_of_unmatched {flags : List Flag} {args : List String}
    (h : ∀ a ∈ args, Unmatched flags a) : consumeFlags flags args = .ok args := by
  have happ := consumeFlags_append_of_unmatched h []
  rw [List.append_nil] at happ
  rw [happ]
  show Except.ok (args ++ []) = _
  rw [List.append_nil]

/-- What a successful `ConsumeFlags` keeps: a sublist of the arguments, in order, that no
flag matches. -/
theorem consumeFlagsLoop_spec (flags : List Flag) (args : List String) :
    ∀ (pending : Bool) {out : List String}, consumeFlagsLoop flags pending args = .ok out →
      out.Sublist args ∧ ∀ a ∈ out, Unmatched flags a := by
  induction args with
  | nil =>
    intro _ _ h
    simp only [consumeFlagsLoop, Except.ok.injEq] at h
    simp [← h]
  | cons arg rest ih =>
    rintro (_ | _) out h
    · simp only [consumeFlagsLoop] at h
      split at h
      · cases h
      · rename_i hskip
        cases hrest : consumeFlagsLoop flags false rest with
        | error e => simp [hrest, Functor.map, Except.map] at h
        | ok out' =>
          simp only [hrest, Functor.map, Except.map, Except.ok.injEq] at h
          subst h
          obtain ⟨hsub, hun⟩ := ih false hrest
          exact ⟨hsub.cons₂ arg, by simpa [(processFlags_eq_skip _ _ _).1 hskip] using hun⟩
      · exact (ih false h).imp (·.cons arg) id
      · exact (ih true h).imp (·.cons arg) id
    · exact (ih false h).imp (·.cons arg) id

/-- What a successful `ConsumeFlags` keeps: a sublist of the arguments, in order, that no
flag matches. -/
theorem consumeFlags_spec (flags : List Flag) (args : List String) {out : List String}
    (h : consumeFlags flags args = .ok out) :
    out.Sublist args ∧ ∀ a ∈ out, Unmatched flags a :=
  consumeFlagsLoop_spec flags args false h

/-! ### Flags whose setters always succeed -/

section AlwaysSet

variable {flags : List Flag} (hset : ∀ f ∈ flags, ∀ m, f.setter m = .ok ())

/-- No consumes-following alias of the flags matches the argument: it is not a bare `--name`
waiting for its value. -/
def NotBare (flags : List Flag) (arg : String) : Prop :=
  ∀ f ∈ flags, ∀ a ∈ f.aliases, a.mode = .flagConsumesFollowing → a.matches arg = false

theorem processAliases_of_setter_ok {setter : FlagMatch → Except String Unit}
    (hs : ∀ m, setter m = .ok ()) {arg : String} (nextArg : Option String)
    {aliases : List FlagAlias}
    (hbare : ∀ a ∈ aliases, a.mode = .flagConsumesFollowing → a.matches arg = false) :
    processAliases setter arg nextArg aliases =
      .ok (if aliases.any (·.matches arg) then .flagConsumed else .flagSkip) := by
  induction aliases with
  | nil => rfl
  | cons a rest ih =>
    obtain ⟨ha, hrest⟩ := List.forall_mem_cons.1 hbare
    by_cases hm : a.matches arg
    · rcases a with ⟨_ | _ | _, name⟩
      · simp [processAliases, hm, hs, Functor.map, Except.map]
      · simp [processAliases, hm, hs, Functor.map, Except.map]
      · exact absurd hm (by simp [ha rfl])
    · simp [processAliases, hm, ih hrest]

include hset in
theorem processFlags_of_setter_ok {arg : String} (nextArg : Option String)
    (hbare : NotBare flags arg) :
    processFlags flags arg nextArg =
      .ok (if Unmatched flags arg then .flagSkip else .flagConsumed) := by
  induction flags with
  | nil => simp [processFlags, Unmatched]
  | cons f rest ih =>
    obtain ⟨hf, hrest⟩ := List.forall_mem_cons.1 hset
    obtain ⟨hbf, hbrest⟩ := List.forall_mem_cons.1 hbare
    have hcons : Unmatched (f :: rest) arg ↔ f.matches arg = false ∧ Unmatched rest arg :=
      List.forall_mem_cons
    simp only [processFlags, Flag.process, processAliases_of_setter_ok hf nextArg hbf]
    by_cases hm : f.matches arg = true
    · rw [Flag.matches] at hm
      simp [hm, hcons, Flag.matches]
    · rw [Flag.matches, Bool.not_eq_true] at hm
      simp [hm, ih hrest hbrest, hcons, Flag.matches]

include hset in
/-- With setters that always succeed and no bare consumes-following alias among the
arguments, `ConsumeFlags` removes exactly the matched arguments. -/
theorem consumeFlags_eq_filter {args : List String} (hbare : ∀ a ∈ args, NotBare flags a) :
    consumeFlags flags args = .ok (args.filter fun a => decide (Unmatched flags a)) := by
  unfold consumeFlags
  induction args with
  | nil => rfl
  | cons arg rest ih =>
    obtain ⟨harg, hrest⟩ := List.forall_mem_cons.1 hbare
    simp only [consumeFlagsLoop, processFlags_of_setter_ok hset _ harg, ih hrest, List.filter_cons]
    by_cases hu : Unmatched flags arg <;> simp [hu, Functor.map, Except.map]

end AlwaysSet

/-! ### Flags that take no separate value -/

/-- No alias of the flag consumes the following argument. -/
def Flag.SingleArg (flag : Flag) : Prop := ∀ a ∈ flag.aliases, a.mode ≠ .flagConsumesFollowing

instance (flag : Flag) : Decidable flag.SingleArg := inferInstanceAs (Decidable (∀ a ∈ _, _))

theorem processAliases_none {aliases : List FlagAlias}
    (h : ∀ a ∈ aliases, a.mode ≠ .flagConsumesFollowing)
    (setter : FlagMatch → Except String Unit) (arg : String) (nextArg : Option String) :
    processAliases setter arg nextArg aliases = processAliases setter arg none aliases ∧
      processAliases setter arg nextArg aliases ≠ .ok .flagConsumedWithFollowing := by
  induction aliases with
  | nil => simp [processAliases]
  | cons a rest ih =>
    obtain ⟨ha, hrest⟩ := List.forall_mem_cons.1 h
    simp only [processAliases]
    split
    · rcases a with ⟨_ | _ | _, name⟩
      · cases setter ⟨name, ⟨arg.data.drop name.length⟩⟩ <;> simp [Functor.map, Except.map]
      · cases setter ⟨arg, arg⟩ <;> simp [Functor.map, Except.map]
      · exact absurd rfl ha
    · exact ih hrest

theorem processFlags_singleton (flag : Flag) (arg : String) (nextArg : Option String) :
    processFlags [flag] arg nextArg = flag.process arg nextArg := by
  simp only [processFlags]
  split <;> simp_all

/-- `ConsumeFlags` with one flag that takes no separate value succeeds exactly when every
argument the flag matches is accepted by its setter, and then removes exactly those. -/
theorem consumeFlags_singleArg {flag : Flag} (hflag : flag.SingleArg) (args out : List String) :
    consumeFlags [flag] args = .ok out ↔
      (∀ a ∈ args, flag.matches a → flag.process a none = .ok .flagConsumed) ∧
        out = args.filter fun a => !flag.matches a := by
  unfold consumeFlags
  induction args generalizing out with
  | nil => simp [consumeFlagsLoop]
  | cons arg rest ih =>
    have hskip : flag.process arg none = .ok .flagSkip ↔ flag.matches arg = false :=
      processAliases_eq_skip flag.setter arg none flag.aliases
    have hstep : processFlags [flag] arg rest.head? = flag.process arg none := by
      rw [processFlags_singleton, Flag.process, (processAliases_none hflag _ _ _).1]; rfl
    simp only [consumeFlagsLoop, hstep, List.forall_mem_cons, List.filter_cons]
    cases hp : flag.process arg none with
    | error e =>
      have hm : flag.matches arg = true := by simpa [hp] using hskip
      exact iff_of_false (by simp) fun ⟨⟨h, _⟩, _⟩ => by simpa [hp] using h hm
    | ok r =>
      cases r with
      | flagSkip =>
        have hm : flag.matches arg = false := hskip.1 hp
        cases hrest : consumeFlagsLoop [flag] false rest with
        | error e =>
          refine iff_of_false (by simp [Functor.map, Except.map]) fun ⟨⟨_, hall⟩, _⟩ => ?_
          simpa [hrest] using (ih _).2 ⟨hall, rfl⟩
        | ok out' =>
          obtain ⟨hall, rfl⟩ := (ih out').1 hrest
          simp only [Functor.map, Except.map, Except.ok.injEq, hm, Bool.not_false, if_true]
          exact ⟨fun h => ⟨⟨by simp, hall⟩, h.symm⟩, fun h => h.2.symm⟩
      | flagConsumed =>
        have hm : flag.matches arg = true := by simpa [hp] using hskip
        simp [hm, ih]
      | flagConsumedWithFollowing =>
        exact absurd hp (processAliases_none hflag flag.setter arg none).2

end Cuttlefish
