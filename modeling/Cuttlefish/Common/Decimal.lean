import Mathlib.Data.List.Basic

/-!
# Decimal instance numbers

`UpdateInstanceArgsAndEnvs` (`server_command/start.cpp:372–431`) prints instance ids into
flag values with `std::to_string` and `android::base::Join(ids, ",")`; the launcher reads
them back. `Nat.repr` is the printer. The reading is the launcher's, outside the
repository: `parseUnsigned` is `String.toNat?` on the characters, and
`parseUnsignedList` splits at commas first. The round trips `parseUnsigned_repr` and
`parseUnsignedList_intercalate` are what make the rewriter's flags denote the ids it
was given.
-/

namespace Cuttlefish

/-- The value of a decimal digit character. -/
def digitValue (c : Char) : Nat := c.toNat - '0'.toNat

/-- A non-empty string of decimal digits, read as a number. -/
def parseUnsigned (s : String) : Option Nat :=
  if s.data ≠ [] ∧ s.data.all Char.isDigit then
    some (s.data.foldl (fun n c => n * 10 + digitValue c) 0)
  else none

/-- A comma-separated list of numbers, as `--instance_nums` carries it. -/
def parseUnsignedList (s : String) : Option (List Nat) :=
  (s.data.splitOn ',').mapM fun cs => parseUnsigned ⟨cs⟩

theorem digitChar_spec :
    ∀ d < 10, (Nat.digitChar d).isDigit ∧ digitValue (Nat.digitChar d) = d := by
  decide

theorem toDigitsCore_succ (fuel n : Nat) (ds : List Char) :
    Nat.toDigitsCore 10 (fuel + 1) n ds =
      if n / 10 = 0 then Nat.digitChar (n % 10) :: ds
      else Nat.toDigitsCore 10 fuel (n / 10) (Nat.digitChar (n % 10) :: ds) := rfl

/-- `Nat.toDigitsCore` with enough fuel prints a non-empty run of digits, and reading it
back on top of an accumulator `n`'s worth of digits gives `n`. -/
theorem toDigitsCore_spec (fuel : Nat) :
    ∀ n (ds : List Char), n < fuel → (∀ c ∈ ds, c.isDigit) →
      Nat.toDigitsCore 10 fuel n ds ≠ [] ∧
        (∀ c ∈ Nat.toDigitsCore 10 fuel n ds, c.isDigit) ∧
        (Nat.toDigitsCore 10 fuel n ds).foldl (fun n c => n * 10 + digitValue c) 0 =
          ds.foldl (fun n c => n * 10 + digitValue c) n := by
  induction fuel with
  | zero => intro n ds hn; omega
  | succ fuel ih =>
    intro n ds hn hds
    obtain ⟨hdigit, hvalue⟩ := digitChar_spec (n % 10) (Nat.mod_lt n (by omega))
    have hdigits : ∀ c ∈ Nat.digitChar (n % 10) :: ds, c.isDigit := by
      simpa [hdigit] using hds
    rw [toDigitsCore_succ]
    split
    · refine ⟨List.cons_ne_nil _ _, hdigits, ?_⟩
      simp only [List.foldl_cons, hvalue]
      congr 1
      omega
    · obtain ⟨hne, hall, hfold⟩ := ih (n / 10) _ (by omega) hdigits
      refine ⟨hne, hall, ?_⟩
      rw [hfold, List.foldl_cons, hvalue, Nat.div_add_mod']

theorem data_repr (n : Nat) : (Nat.repr n).data = Nat.toDigitsCore 10 (n + 1) n [] := rfl

theorem isDigit_of_mem_repr {n : Nat} {c : Char} (h : c ∈ (Nat.repr n).data) : c.isDigit :=
  (toDigitsCore_spec (n + 1) n [] (by omega) (by simp)).2.1 c (data_repr n ▸ h)

/-- Reading back what `std::to_string` printed. -/
@[simp] theorem parseUnsigned_repr (n : Nat) : parseUnsigned (Nat.repr n) = some n := by
  obtain ⟨hne, hall, hfold⟩ := toDigitsCore_spec (n + 1) n [] (by omega) (by simp)
  rw [parseUnsigned, data_repr, if_pos ⟨hne, List.all_eq_true.2 hall⟩, hfold]
  rfl

theorem data_intercalate_go (s : String) :
    ∀ (acc : String) (l : List String),
      (String.intercalate.go acc s l).data = acc.data ++ (l.map fun a => s.data ++ a.data).flatten
  | acc, [] => by simp [String.intercalate.go]
  | acc, a :: l => by simp [String.intercalate.go, data_intercalate_go s (acc ++ s ++ a) l]

theorem intercalate_cons_eq (sep a : List Char) :
    ∀ l : List (List Char), sep.intercalate (a :: l) = a ++ (l.map (sep ++ ·)).flatten
  | [] => by simp [List.intercalate]
  | b :: l => by
    have ih := intercalate_cons_eq sep b l
    simp only [List.intercalate, List.intersperse_cons₂, List.flatten_cons] at ih ⊢
    simp [ih]

theorem data_intercalate (s : String) (l : List String) :
    (s.intercalate l).data = s.data.intercalate (l.map String.data) := by
  cases l with
  | nil => rfl
  | cons a l =>
    simp [String.intercalate, data_intercalate_go, intercalate_cons_eq, Function.comp_def]

/-- Reading back what `Join(ids, ",")` printed. -/
theorem parseUnsignedList_intercalate {ids : List Nat} (hids : ids ≠ []) :
    parseUnsignedList (",".intercalate (ids.map Nat.repr)) = some ids := by
  have hsplit : ((",".intercalate (ids.map Nat.repr)).data.splitOn ',') =
      ids.map fun n => (Nat.repr n).data := by
    rw [data_intercalate, List.map_map]
    apply List.splitOn_intercalate
    · simp only [List.mem_map, Function.comp_apply]
      rintro _ ⟨n, -, rfl⟩ hmem
      exact absurd (isDigit_of_mem_repr hmem) (by decide)
    · simpa using hids
  rw [parseUnsignedList, hsplit]
  clear hsplit hids
  induction ids with
  | nil => rfl
  | cons n ids ih =>
    have hread : parseUnsigned ⟨(Nat.repr n).data⟩ = some n := parseUnsigned_repr n
    rw [List.map_cons, List.mapM_cons, ih, hread]
    rfl

end Cuttlefish
