import ContractCall.Proofs.Check.FirstFault
import ContractCall.Proofs.Check.Nest

/-!
# Nested arrays, level by level

An array of items of a type with a kind, nested to any depth: what is accepted, said of the levels
of the argument, and what the wrappers have to do with it.

* `Arg.itemsAt depth a`: the items that stand `depth` arrays deep in the argument.
* `Layered depth item text a`: arrays down to `depth`, and at that depth items with the property
  `item`. In the place of an innermost array an argument with the property `text` may stand.
* `value_nest_eq_ok_iff_layered`: this is what the check of a nested array type accepts.
* `untyped`: the outcome of a check without the type that a refusal names. It is the same for all
  wrappers (`untyped_value_nest`).
* `value_nest_levels`: both together.
-/

namespace ContractCall

/-- The items that stand this many arrays deep, in order: at depth `0` the argument itself. -/
def Arg.itemsAt : Nat → Arg → List Arg
  | 0, a => [a]
  | depth + 1, .array given => given.flatMap (itemsAt depth)
  | _ + 1, _ => []

/-- The refusal with this type in the place of the one that it names. -/
def Refusal.withType (type : String) : Refusal → Refusal
  | typeMismatch arg _ expected found => typeMismatch arg type expected found
  | outOfRange arg _ range => outOfRange arg type range
  | unrecognizedEnum arg _ found => unrecognizedEnum arg type found
  | unhandledType arg _ => unhandledType arg type
  | r => r

namespace Check

open CairoType

variable {decls : Declarations} {name item item' leaf : String} {a : Arg} {w w' : Wrapper}
  {depth : Nat}

/-! ## Levels of an argument -/

/-- Every level above `depth` is made of arrays, but for arguments with the property `text` on the
last of them, and the items at `depth` have the property `item`. -/
structure Layered (depth : Nat) (item text : Arg → Prop) (a : Arg) : Prop where
  above : ∀ d < depth, ∀ b ∈ a.itemsAt d, (∃ given, b = .array given) ∨ (d + 1 = depth ∧ text b)
  items : ∀ b ∈ a.itemsAt depth, item b

theorem mem_itemsAt_succ {given : List Arg} {b : Arg} :
    b ∈ (Arg.array given).itemsAt (depth + 1) ↔ ∃ c ∈ given, b ∈ c.itemsAt depth :=
  List.mem_flatMap

theorem itemsAt_succ_of_not_array (ha : ∀ given, a ≠ .array given) :
    a.itemsAt (depth + 1) = [] := by
  cases a with
  | array given => exact absurd rfl (ha given)
  | _ => rfl

theorem layered_zero_iff {item text : Arg → Prop} : Layered 0 item text a ↔ item a :=
  ⟨fun h => h.items a (List.mem_singleton_self a),
    fun h => ⟨nofun, fun _ hb => List.mem_singleton.mp hb ▸ h⟩⟩

/-- The levels of an array are those of its items, one deeper. -/
theorem layered_array_iff {item text : Arg → Prop} {given : List Arg} :
    Layered (depth + 1) item text (.array given) ↔ ∀ c ∈ given, Layered depth item text c := by
  constructor
  · intro h c hc
    refine ⟨fun d hd b hb => ?_, fun b hb => h.items b (mem_itemsAt_succ.mpr ⟨c, hc, hb⟩)⟩
    have := h.above (d + 1) (Nat.succ_lt_succ hd) b (mem_itemsAt_succ.mpr ⟨c, hc, hb⟩)
    rwa [Nat.add_right_cancel_iff] at this
  · intro h
    constructor
    · intro d hd b hb
      cases d with
      | zero => exact .inl ⟨given, List.mem_singleton.mp hb⟩
      | succ d =>
        obtain ⟨c, hc, hb⟩ := mem_itemsAt_succ.mp hb
        rw [Nat.add_right_cancel_iff]
        exact (h c hc).above d (Nat.lt_of_succ_lt_succ hd) b hb
    · intro b hb
      obtain ⟨c, hc, hb⟩ := mem_itemsAt_succ.mp hb
      exact (h c hc).items b hb

/-- The outermost level: an array whose items have one level less, or a text if it is also the
innermost. -/
theorem layered_succ_iff {item text : Arg → Prop} (ht : ∀ given, ¬ text (.array given)) :
    Layered (depth + 1) item text a ↔
      (depth = 0 ∧ text a) ∨
        ∃ given, a = .array given ∧ ∀ c ∈ given, Layered depth item text c := by
  by_cases ha : ∃ given, a = .array given
  · obtain ⟨given, rfl⟩ := ha
    rw [layered_array_iff, or_iff_right fun h => ht given h.2]
    simp
  · have hnone : a.itemsAt (0 + 1) = [] := itemsAt_succ_of_not_array (not_exists.mp ha)
    constructor
    · intro h
      rcases h.above 0 (Nat.succ_pos depth) a (List.mem_singleton_self a) with h | ⟨h0, h⟩
      · exact absurd h ha
      · exact .inl ⟨by omega, h⟩
    · rintro (⟨rfl, h⟩ | ⟨given, rfl, -⟩)
      · refine ⟨fun d hd b hb => ?_, by rw [hnone]; nofun⟩
        obtain rfl : d = 0 := by omega
        exact .inr ⟨rfl, List.mem_singleton.mp hb ▸ h⟩
      · exact absurd ⟨given, rfl⟩ ha

/-! ## What is accepted -/

/-- The argument stands for an array of felts: it is a text that is too long for one. -/
def StandsForFelts (leaf : String) (a : Arg) : Prop :=
  isFelt leaf = true ∧ ∃ s, a = .text s ∧ 31 < s.length

/-- Wrappers hide a felt: only the bare leaf is one. -/
theorem isFelt_nest_iff (ws : List Wrapper) :
    isFelt (nest ws leaf) = true ↔ ws.length = 0 ∧ isFelt leaf = true := by
  cases ws with
  | nil => simp
  | cons w ws =>
    have hk : classify ⟨[], []⟩ (nest (w :: ws) leaf) = some (.array (nest ws leaf)) :=
      classify_of _ w _
    have hf : ¬ isFelt (nest (w :: ws) leaf) = true := by
      intro hf
      cases (classify_of_isFelt _ hf).symm.trans hk
    exact iff_of_false hf fun h => absurd h.1 (Nat.succ_ne_zero _)

/-- A nested type has a kind if its leaf has one, and always where there is a wrapper. -/
theorem classify_nest_eq_none_iff (ws : List Wrapper) :
    classify decls (nest ws leaf) = none ↔ ws.length = 0 ∧ classify decls leaf = none := by
  cases ws with
  | nil => simp
  | cons w ws => simp [classify_of]

/-- The check of a nested array type goes down one level for each wrapper. -/
theorem value_nest_eq_ok_iff_layered (hk : ∃ k, classify decls leaf = some k) (ws : List Wrapper) :
    value decls name (nest ws leaf) a = .ok () ↔
      Layered ws.length (fun b => value decls name leaf b = .ok ()) (StandsForFelts leaf) a := by
  induction ws generalizing a with
  | nil => rw [nest_nil, List.length_nil, layered_zero_iff]
  | cons w ws ih =>
    have hne : ∃ k, classify decls (nest ws leaf) = some k := by
      refine Option.ne_none_iff_exists'.mp fun hn => ?_
      obtain ⟨k, hk⟩ := hk
      rw [((classify_nest_eq_none_iff ws).mp hn).2] at hk
      cases hk
    have ht : ∀ given, ¬ StandsForFelts leaf (.array given) := by
      rintro given ⟨-, s, h, -⟩
      cases h
    rw [nest_cons, value_of_eq_ok_iff, List.length_cons, layered_succ_iff ht, isFelt_nest_iff,
      and_assoc]
    refine or_congr_right (exists_congr fun given => and_congr_right fun _ => ?_)
    simp only [and_iff_right hne, ih]

/-! ## What the wrappers have to do with it -/

/-- The outcome of a check without the type that a refusal names. -/
def untyped (v : Verdict) : Verdict :=
  v.mapError (Refusal.withType "")

theorem untyped_forM {f : Arg → Verdict} (given : List Arg) :
    untyped (given.forM f) = given.forM fun b => untyped (f b) := by
  induction given with
  | nil => rfl
  | cons b rest ih =>
    have hc (f : Arg → Verdict) : (b :: rest).forM f = (f b >>= fun _ => rest.forM f) := rfl
    rw [hc, hc, ← ih]
    cases f b <;> rfl

/-- One level of a nested array, with the check of the items. -/
theorem value_of (decls : Declarations) (name : String) (w : Wrapper) (item : String) (a : Arg) :
    value decls name (w.of item) a =
      if isFelt item && isLongText a then .ok ()
      else
        match a with
        | .array given =>
          if classify decls item = none then .error (.unhandledType name (w.of item))
          else given.forM (value decls name item)
        | a => .error (.typeMismatch name (w.of item) "Array" a.kindName) := by
  rw [value_of_classify (classify_of decls w item), kind.eq_def]
  dsimp only
  split
  · rfl
  · cases a with
    | array given =>
      cases hk : classify decls item with
      | none => rfl
      | some k =>
        have hv : value decls name item = kind decls name item k :=
          funext fun b => value_of_classify hk
        simp only [items_eq_forM, hv, reduceCtorEq, if_false]
    | _ => rfl

/-- Types of items that are alike to the check of an array make alike arrays. -/
theorem untyped_value_of_congr (hf : isFelt item = isFelt item')
    (hc : classify decls item = none ↔ classify decls item' = none)
    (hv : ∀ b, untyped (value decls name item b) = untyped (value decls name item' b)) :
    untyped (value decls name (w.of item) a) = untyped (value decls name (w'.of item') a) := by
  rw [value_of, value_of, hf]
  split
  · rfl
  · cases a with
    | array given =>
      simp only [hc]
      split
      · rfl
      · rw [untyped_forM, untyped_forM, funext hv]
    | _ => rfl

/-- Only the number of the wrappers matters, but for the type that a refusal names. -/
theorem untyped_value_nest {ws ws' : List Wrapper} (hl : ws.length = ws'.length) :
    untyped (value decls name (nest ws leaf) a) = untyped (value decls name (nest ws' leaf) a) := by
  induction ws generalizing ws' a with
  | nil => rw [List.eq_nil_of_length_eq_zero hl.symm]
  | cons w ws ih =>
    obtain ⟨w', ws', rfl⟩ := List.exists_cons_of_length_eq_add_one hl.symm
    have hl : ws.length = ws'.length := Nat.succ.inj hl
    have hf : isFelt (nest ws leaf) = isFelt (nest ws' leaf) := by
      rw [Bool.eq_iff_iff, isFelt_nest_iff, isFelt_nest_iff, hl]
    have hc : classify decls (nest ws leaf) = none ↔ classify decls (nest ws' leaf) = none := by
      rw [classify_nest_eq_none_iff, classify_nest_eq_none_iff, hl]
    rw [nest_cons, nest_cons]
    exact untyped_value_of_congr hf hc fun b => ih hl

/-- An argument is accepted for a type with a kind, wrapped any number of times, if its levels are
arrays, of any lengths, down to items that the type accepts. In the place of an innermost array of
felts a text of more than 31 characters may stand. Arrays and spans are judged alike: another choice
of the wrappers changes nothing but the type that a refusal names. -/
theorem value_nest_levels (decls : Declarations) (name leaf : String) (ws : List Wrapper) (a : Arg)
    (hk : ∃ k, classify decls leaf = some k) :
    (value decls name (nest ws leaf) a = .ok () ↔
      (∀ d < ws.length, ∀ b ∈ a.itemsAt d, (∃ given, b = .array given) ∨
        (d + 1 = ws.length ∧ isFelt leaf = true ∧ ∃ s, b = .text s ∧ 31 < s.length)) ∧
      ∀ b ∈ a.itemsAt ws.length, value decls name leaf b = .ok ()) ∧
    ∀ ws' : List Wrapper, ws'.length = ws.length →
      untyped (value decls name (nest ws' leaf) a) =
        untyped (value decls name (nest ws leaf) a) := by
  refine ⟨?_, fun ws' hl => untyped_value_nest hl⟩
  rw [value_nest_eq_ok_iff_layered hk]
  exact ⟨fun h => ⟨h.above, h.items⟩, fun ⟨ha, hi⟩ => ⟨ha, hi⟩⟩

/-- Rows of felts: one is empty, one is given as a long text, and one has two felts. -/
def raggedRows : Arg :=
  .array [.array [], .text "The quick brown fox jumps over it.", .array [.bigint 7, .text "0x1f"]]

/-- They are accepted as spans of arrays since they are as arrays of spans. -/
theorem value_nest_levels_raggedRows :
    (∃ k, classify ⟨[], []⟩ "core::felt252" = some k) ∧
      (∀ b ∈ raggedRows.itemsAt 2, value ⟨[], []⟩ "rows" "core::felt252" b = .ok ()) ∧
      value ⟨[], []⟩ "rows" (nest [.array, .span] "core::felt252") raggedRows = .ok () ∧
      untyped (value ⟨[], []⟩ "rows" (nest [.span, .array] "core::felt252") raggedRows) =
        .ok () := by
  have hk : ∃ k, classify ⟨[], []⟩ "core::felt252" = some k := ⟨.felt, by decide⟩
  have hok : value ⟨[], []⟩ "rows" (nest [.array, .span] "core::felt252") raggedRows = .ok () := rfl
  have h := value_nest_levels ⟨[], []⟩ "rows" "core::felt252" [.array, .span] raggedRows hk
  refine ⟨hk, (h.1.mp hok).2, hok, ?_⟩
  rw [h.2 [.span, .array] rfl, hok]
  rfl

end Check

end ContractCall
