import ContractCall.Proofs.CairoType
import ContractCall.Proofs.Check.Acceptance

/-!
# Nested arrays

What the check of a nested array type accepts, level by level.

* `value_of_eq_ok_iff`: one level, in terms of the check for the type of the items.
* `Hollow depth a`: the argument is made of arrays only, nested at most `depth` deep.
* `value_nest_eq_ok_iff_hollow`: around an unsupported type, exactly the hollow arguments that end
  above the innermost arrays are accepted. None does under one wrapper; under more of them the empty
  array does (`not_refused_emptyRows`).
-/

namespace ContractCall.Check

open CairoType Typing

variable {decls : Declarations} {name item leaf : String} {a : Arg} {w : Wrapper}

/-- One level of a nested array: a long text where the items are felts, or an array of items that
their type accepts. The type of the items must have a kind also where there are none. -/
theorem value_of_eq_ok_iff : value decls name (w.of item) a = .ok () ↔
    (isFelt item = true ∧ ∃ s, a = .text s ∧ 31 < s.length) ∨
      ∃ given, a = .array given ∧ (∃ k, classify decls item = some k) ∧
        ∀ b ∈ given, value decls name item b = .ok () := by
  rw [value_eq_ok_iff, accepts_iff_fitsKind (classify_of decls w item)]
  simp only [value_eq_ok_iff]
  rfl

/-- One level of items that are no felts. -/
theorem value_of_eq_ok_iff_of_ne_felt (hk : classify decls item ≠ some .felt) :
    value decls name (w.of item) a = .ok () ↔
      ∃ given, a = .array given ∧ (∃ k, classify decls item = some k) ∧
        ∀ b ∈ given, value decls name item b = .ok () := by
  have hf : isFelt item ≠ true := fun hf => hk (classify_of_isFelt decls hf)
  rw [value_of_eq_ok_iff, or_iff_right fun h => hf h.1]

/-- The argument is made of arrays only, nested at most `depth` deep: every innermost array is
empty. -/
inductive Hollow : Nat → Arg → Prop where
  | array {depth : Nat} {given : List Arg} (h : ∀ b ∈ given, Hollow depth b) :
    Hollow (depth + 1) (.array given)

theorem not_hollow_zero : ¬ Hollow 0 a := nofun

theorem hollow_succ_iff {depth : Nat} :
    Hollow (depth + 1) a ↔ ∃ given, a = .array given ∧ ∀ b ∈ given, Hollow depth b := by
  constructor
  · rintro ⟨h⟩
    exact ⟨_, rfl, h⟩
  · rintro ⟨given, rfl, h⟩
    exact .array h

/-- An unsupported type is found out at the innermost arrays, and only there: an argument with an
array at that level, or with anything but arrays above it, is refused, and one that ends above it is
accepted. -/
theorem value_nest_eq_ok_iff_hollow (decls : Declarations) (name leaf : String) (w : Wrapper)
    (ws : List Wrapper) (a : Arg) (hl : classify decls leaf = none) :
    value decls name (nest (w :: ws) leaf) a = .ok () ↔ Hollow ws.length a := by
  induction ws generalizing w a with
  | nil =>
    rw [nest_cons, nest_nil, value_of_eq_ok_iff_of_ne_felt (by simp [hl])]
    refine ⟨?_, fun h => absurd h not_hollow_zero⟩
    -- the kind of the items is asked for even if there are none
    rintro ⟨given, -, ⟨k, hk⟩, -⟩
    rw [hl] at hk
    cases hk
  | cons v ws ih =>
    have hk : classify decls (nest (v :: ws) leaf) = some (.array (nest ws leaf)) :=
      classify_of decls v _
    have hne : classify decls (nest (v :: ws) leaf) ≠ some .felt := by
      rw [hk]
      nofun
    rw [nest_cons, value_of_eq_ok_iff_of_ne_felt hne, List.length_cons, hollow_succ_iff]
    refine exists_congr fun given => and_congr_right fun _ => ?_
    simp only [ih]
    exact and_iff_right ⟨_, hk⟩

/-- Two wrappers around an undeclared type. -/
def unknownRows : String :=
  nest [.array, .span] "demo::Unknown"

/-- Rows of an undeclared type are refused as soon as there is a row, be it empty. -/
theorem value_nest_eq_ok_iff_hollow_unknownRows :
    classify ⟨[], []⟩ "demo::Unknown" = none ∧
      value ⟨[], []⟩ "rows" unknownRows (.array [.array []]) ≠ .ok () := by
  have hl : classify ⟨[], []⟩ "demo::Unknown" = none := by decide
  refine ⟨hl, fun hok => ?_⟩
  have h := (value_nest_eq_ok_iff_hollow ⟨[], []⟩ "rows" "demo::Unknown" .array [.span] _ hl).mp hok
  obtain ⟨given, hg, hb⟩ := hollow_succ_iff.mp h
  cases hg
  exact not_hollow_zero (hb _ List.mem_cons_self)

/-- Without a row they are accepted. -/
theorem not_refused_emptyRows :
    classify ⟨[], []⟩ "demo::Unknown" = none ∧
      value ⟨[], []⟩ "rows" unknownRows (.array []) = .ok () :=
  ⟨by decide, rfl⟩

end ContractCall.Check
