import ContractCall.Proofs.Check.Acceptance
import ContractCall.Proofs.Fault

/-!
# Refused arguments

Each check of `ContractCall.Check` that fails states a fault of the value it refuses, in the sense
of `ContractCall.Proofs.Fault`: one lemma for each check, named `fault_of_*`.

* `max?_felt`, `max?_uint`, `max?_ethAddress`: the label of every range shows the range that is
  checked.
* `firstFault_of_value`: a refused argument is refused for the first value in it, in depth-first
  order, that its type does not accept. The induction is on the nesting of arrays.
* `exists_slot_of_args_eq_error`: a refused call names one of its slots. In particular the number of
  arguments is never the reason that `Check.args` gives.
* `firstFaultAt_of_args_eq_error`: a refused call is refused for its first slot without an accepted
  argument.
-/

namespace ContractCall.Check

open CairoType Typing

variable {name type : String} {a : Arg} {n : Int} {decls : Declarations} {r : Refusal}

/-! ## Ranges -/

theorem max?_felt : RangeLabel.max? Bound.felt.label = some Bound.felt.max := by decide

theorem max?_uint (w : Width) :
    RangeLabel.max? (Bound.uint w).label = some (Bound.uint w).max := by
  cases w <;> decide

theorem max?_ethAddress : RangeLabel.max? Bound.ethAddress.label = some Bound.ethAddress.max := by
  decide

theorem max?_halves : RangeLabel.max? RangeLabel.halves = some (2 ^ 128 - 1) := by decide

theorem bound_eq_error_iff {b : Bound} : bound n name type b = .error r ↔
    ¬ (0 ≤ n ∧ n ≤ b.max) ∧ r = .outOfRange name type b.label := by
  have hc : b.contains n = true ↔ 0 ≤ n ∧ n ≤ b.max := by
    simp only [Bound.contains, Bool.and_eq_true, decide_eq_true_eq]
  rw [← hc, bound]
  split
  · rename_i h
    simp [h]
  · rename_i h
    simp [h, eq_comm]

/-- An integer that a range refuses is outside the interval that its label shows. -/
theorem fault_of_bound {b : Bound} (hl : RangeLabel.max? b.label = some b.max)
    (hw : b.label ≠ RangeLabel.halves) (hn : Reads a n) (h : bound n name type b = .error r) :
    Fault decls name type a r := by
  obtain ⟨hout, rfl⟩ := bound_eq_error_iff.mp h
  exact .outOfRange hw hn ⟨b.max, hl, hout⟩

theorem integer_eq_error_iff {expected : String} : integer name type expected a = .error r ↔
    (∀ n, ¬ Denotes a n) ∧ r = .typeMismatch name type expected a.kindName := by
  simp only [← integer?_eq_some_iff]
  unfold integer
  cases integer? a <;> simp [eq_comm]

/-- An integer check followed by a bound check. -/
theorem fault_of_integer_bind_bound {expected : String} {b : Bound}
    (hl : RangeLabel.max? b.label = some b.max) (hw : b.label ≠ RangeLabel.halves)
    (ha : ¬ Accepts decls type a)
    (h : (integer name type expected a >>= fun n => bound n name type b) = .error r) :
    Fault decls name type a r := by
  rcases bind_eq_error_iff.mp h with h | ⟨n, hn, h⟩
  · obtain ⟨-, rfl⟩ := integer_eq_error_iff.mp h
    exact .typeMismatch expected ha
  · exact fault_of_bound hl hw (.scalar (integer_eq_ok_iff.mp hn)) h

theorem fault_of_felt (ha : ¬ Accepts decls type a) (h : felt name type a = .error r) :
    Fault decls name type a r := by
  unfold felt at h
  split at h
  · cases h
  · exact fault_of_integer_bind_bound max?_felt (by decide) ha h

/-! ## Unsigned integers -/

theorem isOversize_eq_true_iff : isOversize a = true ↔ IsOversize a := by
  constructor
  · intro h
    cases a with
    | number n => exact .number (of_decide_eq_true h)
    | float x => exact .float (Binary64.exceeds_iff_above.mp h)
    | _ => cases h
  · intro h
    cases h with
    | number h => exact decide_eq_true h
    | float h => exact Binary64.exceeds_iff_above.mpr h

theorem half_eq_error_iff {half' : Arg} : half name type half' = .error r ↔
    ((∀ n, ¬ Denotes half' n) ∧ r = .typeMismatch name type bigNumberish half'.kindName) ∨
      ∃ n, Denotes half' n ∧ ¬ InBits 128 n ∧ r = .outOfRange name type RangeLabel.halves := by
  rw [half, bind_eq_error_iff, integer_eq_error_iff]
  refine or_congr_right (exists_congr fun n => and_congr integer_eq_ok_iff ?_)
  rw [← fitsHalf_iff]
  split
  · rename_i hf
    simp [hf]
  · rename_i hf
    simp [hf, RangeLabel.halves, eq_comm]

theorem fault_of_half {w : Width} {members : List (String × Arg)} {half' : Arg}
    (hk : classify decls type = some (.uint w)) (hh : IsHalf members half')
    (h : half name type half' = .error r) : Fault decls name type (.object members) r := by
  rcases half_eq_error_iff.mp h with ⟨hd, rfl⟩ | ⟨n, hn, hb, rfl⟩
  · exact .halfMismatch bigNumberish hk hh hd
  · refine .halfOutOfRange hk hh hn ⟨2 ^ 128 - 1, max?_halves, fun hr => hb ?_⟩
    exact ⟨hr.1, hr.2⟩

theorem reads_of_wholeOrSplit (h : wholeOrSplit name type a = .ok n) : Reads a n := by
  by_cases ho : ∃ members, a = .object members
  · obtain ⟨members, rfl⟩ := ho
    obtain ⟨low, high, l, u, hlow, hhigh, hl, hu, rfl⟩ := wholeOrSplit_object_eq_ok_iff.mp h
    exact .split hlow hhigh hl.1 hu.1 hl.2 hu.2
  · exact .scalar ((wholeOrSplit_eq_ok_iff (not_exists.mp ho)).mp h)

theorem fault_of_wholeOrSplit {w : Width} (hk : classify decls type = some (.uint w))
    (ha : ¬ Accepts decls type a) (h : wholeOrSplit name type a = .error r) :
    Fault decls name type a r := by
  unfold wholeOrSplit at h
  split at h
  · split at h
    · rename_i low high hlow hhigh
      rcases bind_eq_error_iff.mp h with h | ⟨l, -, h⟩
      · exact fault_of_half hk (.inl hlow) h
      · rcases bind_eq_error_iff.mp h with h | ⟨u, -, h⟩
        · exact fault_of_half hk (.inr hhigh) h
        · cases h
    · cases h
      exact .typeMismatch _ ha
  · obtain ⟨-, rfl⟩ := integer_eq_error_iff.mp h
    exact .typeMismatch _ ha

theorem fault_of_uint {w : Width} (hk : classify decls type = some (.uint w))
    (ha : ¬ Accepts decls type a) (h : uint name type (.uint w) a = .error r) :
    Fault decls name type a r := by
  unfold uint at h
  split at h
  · rename_i ho
    cases h
    exact .oversizeNumber hk (isOversize_eq_true_iff.mp ho)
  · rcases bind_eq_error_iff.mp h with h | ⟨n, hn, h⟩
    · exact fault_of_wholeOrSplit hk ha h
    · exact fault_of_bound (max?_uint w) (by cases w <;> decide) (reads_of_wholeOrSplit hn) h

/-! ## The other kinds -/

theorem fault_of_bool (ha : ¬ Accepts decls type a) (h : bool name type a = .error r) :
    Fault decls name type a r := by
  unfold bool at h
  split at h
  · cases h
  · cases h
    exact .typeMismatch _ ha

theorem members_eq_forM (given : List (String × Arg)) (declared : List Abi.Component) :
    members name given declared = declared.forM fun m =>
      if (Assoc.get? given m.name).isSome then .ok () else .error (.missingMember name m.name) := by
  induction declared with
  | nil => rfl
  | cons m rest ih =>
    rw [members, ih]
    cases h : (Assoc.get? given m.name).isSome with
    | true => simp only [List.forM, h]; rfl
    | false => simp only [List.forM, h]; rfl

/-- The member that is missed is the first declared one without a value. -/
theorem members_eq_error_iff {given : List (String × Arg)} {declared : List Abi.Component} :
    members name given declared = .error r ↔ ∃ before m after, declared = before ++ m :: after ∧
      (∀ c ∈ before, ∃ v, Assoc.get? given c.name = some v) ∧
      Assoc.get? given m.name = none ∧ r = .missingMember name m.name := by
  rw [members_eq_forM, forM_eq_error_iff]
  refine exists_congr fun before => exists_congr fun m => exists_congr fun after =>
    and_congr_right fun _ => and_congr (forall₂_congr fun c _ => ?_) ?_
  · cases Assoc.get? given c.name <;> simp
  · cases Assoc.get? given m.name <;> simp [eq_comm]

/-- A type of the kind of a struct is declared as one, so a struct is never refused for want of a
declaration. -/
theorem exists_struct_of_classify (hk : classify decls type = some .struct) :
    ∃ decl, Assoc.get? decls.structs type = some decl := by
  have hs : isStruct type decls = true := by
    -- the kind decides which test of the chain held
    unfold classify at hk
    repeat' split at hk
    all_goals first | assumption | cases hk
  exact Option.isSome_iff_exists.mp hs

theorem fault_of_struct (hk : classify decls type = some .struct) (ha : ¬ Accepts decls type a)
    (h : struct decls name type a = .error r) : Fault decls name type a r := by
  unfold struct at h
  rw [if_neg (by simp [isUint256_eq_false_of_classify hk])] at h
  split at h
  · exact fault_of_integer_bind_bound max?_ethAddress (by decide) ha h
  · rename_i ht
    split at h
    · split at h
      · rename_i decl hd
        obtain ⟨before, m, after, hs, hb, hm, rfl⟩ := members_eq_error_iff.mp h
        exact .missingMember hk (eq_false_of_ne_true ht) hd hs hb hm
      · rename_i hd
        obtain ⟨decl, hs⟩ := exists_struct_of_classify hk
        rw [hs] at hd
        cases hd
    · cases h
      exact .typeMismatch _ ha

theorem fault_of_enum {sort : EnumSort} (hk : classify decls type = some (.enum sort))
    (ha : ¬ Accepts decls type a) (h : enum name type sort a = .error r) :
    Fault decls name type a r := by
  have hf : ¬ FitsEnum sort a := fun hf => ha (.enum hk hf)
  unfold enum at h
  split at h
  all_goals cases h
  all_goals first | exact .typeMismatch _ ha | exact .unrecognizedEnum hk (by constructor) hf

theorem fault_of_tuple (ha : ¬ Accepts decls type a) (h : tuple name type a = .error r) :
    Fault decls name type a r := by
  unfold tuple at h
  split at h
  all_goals cases h
  exact .typeMismatch _ ha

/-! ## Types -/

theorem items_eq_forM {k : Kind} (given : List Arg) :
    items decls name type k given = given.forM (kind decls name type k) := by
  induction given with
  | nil => rw [items]; rfl
  | cons a rest ih => rw [items, ih]; rfl

/-- A refused array of items is refused for its first refused item. -/
theorem items_eq_error_iff {k : Kind} {given : List Arg} :
    items decls name type k given = .error r ↔ ∃ before x after, given = before ++ x :: after ∧
      (∀ b ∈ before, kind decls name type k b = .ok ()) ∧ kind decls name type k x = .error r := by
  rw [items_eq_forM, forM_eq_error_iff]

/-- The fault of a value whose items, if it has any, are not checked. -/
theorem firstFault_of_fault {k : Kind} (hk : classify decls type = some k)
    (hne : ∀ element, k ≠ .array element) (ha : ¬ Accepts decls type a)
    (h : Fault decls name type a r) : FirstFault decls name type a r := by
  refine .here (fun element items he _ => ?_) ha h
  rw [hk] at he
  cases he
  exact absurd rfl (hne element)

/-- The check against the kind of a type. Only arrays nest, so the induction is on their nesting;
the type and its kind change at each level, the name does not. -/
theorem firstFault_of_kind {k : Kind} (hk : classify decls type = some k)
    (h : kind decls name type k a = .error r) : FirstFault decls name type a r := by
  induction a using Arg.itemInduction generalizing type k with
  | step a ih =>
    have ha : ¬ Accepts decls type a := by
      rw [accepts_iff_fitsKind hk, ← @kind_eq_ok_iff name _ _ _ _ hk, h]
      nofun
    have hleaf := @firstFault_of_fault name type a decls r k hk
    rw [kind.eq_def] at h
    cases k with
    | felt => exact hleaf (by simp) ha (fault_of_felt ha h)
    | literal which => exact hleaf (by simp) ha (fault_of_felt ha h)
    | uint w => exact hleaf (by simp) ha (fault_of_uint hk ha h)
    | bool => exact hleaf (by simp) ha (fault_of_bool ha h)
    | struct => exact hleaf (by simp) ha (fault_of_struct hk ha h)
    | enum sort => exact hleaf (by simp) ha (fault_of_enum hk ha h)
    | tuple => exact hleaf (by simp) ha (fault_of_tuple ha h)
    | array element =>
      dsimp only at h
      split at h
      · cases h
      · split at h
        · rename_i given _
          split at h
          · rename_i k he
            obtain ⟨before, x, after, rfl, hb, hx⟩ := items_eq_error_iff.mp h
            refine .item hk (fun b hm => ?_) (ih _ rfl x (by simp) he hx)
            exact (accepts_iff_fitsKind he).mpr ((kind_eq_ok_iff he).mp (hb b hm))
          · rename_i he
            cases h
            refine .here (fun element' items he' _ => ?_) ha (.unhandledItems hk he)
            rw [hk] at he'
            cases he'
            exact he
        · rename_i hne
          cases h
          exact .here (fun _ items _ hi => absurd hi (hne items)) ha (.typeMismatch _ ha)

/-- A refused argument is refused for the first value in it that its type does not accept. -/
theorem firstFault_of_value (h : value decls name type a = .error r) :
    FirstFault decls name type a r := by
  unfold value at h
  split at h
  · rename_i k hk
    exact firstFault_of_kind hk h
  · rename_i hk
    cases h
    refine .here (fun element items he _ => ?_) (not_accepts_of_classify_none hk)
      (.unhandledType hk)
    rw [hk] at he
    cases he

/-! ## Slots -/

/-- The first slot without an accepted argument. -/
theorem slots_eq_error {position : Nat} {ps : List Abi.Param} {given : List Arg}
    (h : slots decls position ps given = .error r) :
    ∃ i p, ps[i]? = some p ∧
      (∀ j < i, ∃ q a, ps[j]? = some q ∧ given[j]? = some a ∧ Accepts decls q.type a) ∧
      ((i = given.length ∧ r = .missingArgument p.name (position + i)) ∨
        ∃ a, given[i]? = some a ∧ value decls p.name p.type a = .error r) := by
  induction ps generalizing position given with
  | nil => cases h
  | cons p rest ih =>
    cases given with
    | nil =>
      cases h
      exact ⟨0, p, rfl, nofun, .inl ⟨rfl, rfl⟩⟩
    | cons a further =>
      rw [slots] at h
      rcases bind_eq_error_iff.mp h with h | ⟨_, hok, h⟩
      · exact ⟨0, p, rfl, nofun, .inr ⟨a, rfl, h⟩⟩
      · obtain ⟨i, q, hq, hb, hr⟩ := ih h
        refine ⟨i + 1, q, hq, fun j hj => ?_, ?_⟩
        · cases j with
          | zero => exact ⟨p, a, rfl, rfl, value_eq_ok_iff.mp hok⟩
          | succ j => exact hb j (by omega)
        · rcases hr with ⟨rfl, rfl⟩ | ⟨b, hb', hv⟩
          · exact .inl ⟨rfl, by rw [Nat.add_right_comm, Nat.add_assoc]⟩
          · exact .inr ⟨b, hb', hv⟩

/-- The refusal of a call's arguments names one of the slots. -/
theorem exists_slot_of_args_eq_error {f : Abi.Signature} {given : List Arg}
    (h : args decls f given = .error r) : ∃ p ∈ f.slots, r.parameter? = some p.name := by
  obtain ⟨i, p, hp, -, ⟨-, rfl⟩ | ⟨a, -, hv⟩⟩ := slots_eq_error h
  · exact ⟨p, List.mem_of_getElem? hp, rfl⟩
  · exact ⟨p, List.mem_of_getElem? hp, (firstFault_of_value hv).parameter?_eq⟩

theorem args_ne_argumentCount {f : Abi.Signature} {given : List Arg} {expected got : Nat} :
    args decls f given ≠ .error (.argumentCount expected got) := by
  intro h
  obtain ⟨p, -, hp⟩ := exists_slot_of_args_eq_error h
  cases hp

/-- The refusal is about the slot `p` at position `i`: it names the slot, every slot before it has
an argument that its type accepts, and there is no argument for the slot, as the refusal says with
the number of arguments, or one with a first fault that the refusal states. -/
structure FirstFaultAt (decls : Declarations) (f : Abi.Signature) (given : List Arg) (r : Refusal)
    (i : Nat) (p : Abi.Param) : Prop where
  slot : f.slots[i]? = some p
  named : r.parameter? = some p.name
  before : ∀ j < i, ∃ q a, f.slots[j]? = some q ∧ given[j]? = some a ∧ Accepts decls q.type a
  fault : (i = given.length ∧ r = .missingArgument p.name given.length) ∨
    ∃ a, given[i]? = some a ∧ FirstFault decls p.name p.type a r

/-- A refused call is refused for its first slot without an accepted argument, and the refusal
states a fault of the first value in that argument which is not accepted. -/
theorem firstFaultAt_of_args_eq_error (decls : Declarations) (f : Abi.Signature) (given : List Arg)
    (r : Refusal) (h : args decls f given = .error r) :
    ∃ i p, FirstFaultAt decls f given r i p := by
  obtain ⟨i, p, hp, hb, ⟨hi, hr⟩ | ⟨a, ha, hv⟩⟩ := slots_eq_error h
  · rw [Nat.zero_add, hi] at hr
    exact ⟨i, p, hp, hr ▸ rfl, hb, .inl ⟨hi, hr⟩⟩
  · have hf := firstFault_of_value hv
    exact ⟨i, p, hp, hf.parameter?_eq, hb, .inr ⟨a, ha, hf⟩⟩

/-- A function that takes rows of bytes. -/
def writeRows : Abi.Signature where
  name := "write_rows"
  inputs := [⟨"rows_len", "core::integer::u32"⟩, ⟨"owner", "core::felt252"⟩,
    ⟨"rows", "core::array::Array::<core::array::Span::<core::integer::u8>>"⟩]
  outputs := []
  stateMutability := some "external"

/-- Of the three faulty values in the rows, the refusal states the range of the first one. -/
theorem firstFaultAt_writeRows :
    args ⟨[], []⟩ writeRows
        [.text "0x1", .array [.array [.number 0], .array [.number 256, .number (-1)], .bool true]] =
      .error (.outOfRange "rows" "core::integer::u8" "[0, 255]") ∧
    ∃ i p, FirstFaultAt ⟨[], []⟩ writeRows
      [.text "0x1", .array [.array [.number 0], .array [.number 256, .number (-1)], .bool true]]
      (.outOfRange "rows" "core::integer::u8" "[0, 255]") i p := by
  have h : args ⟨[], []⟩ writeRows
        [.text "0x1", .array [.array [.number 0], .array [.number 256, .number (-1)], .bool true]] =
      .error (.outOfRange "rows" "core::integer::u8" "[0, 255]") := rfl
  exact ⟨h, firstFaultAt_of_args_eq_error _ _ _ _ h⟩

end ContractCall.Check
