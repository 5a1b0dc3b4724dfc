import ContractCall.Proofs.Outcome
import ContractCall.Proofs.Typing

/-!
# Accepted arguments

Each check of `ContractCall.Check` succeeds exactly on the arguments that `ContractCall.Typing`
relates to the type: one lemma for each check, named `*_eq_ok_iff`. For a check of an integer the
lemma also says which integer is read.

* `value_eq_ok_iff`: `value` decides `Accepts`, by induction on the nesting of arrays.
* `slots_eq_ok_iff`: every slot takes the argument at its place; further arguments are not looked
  at.
* `args_eq_ok_iff_accepts`: the same for the declared inputs of a function, in terms of `Accepts`.
-/

namespace ContractCall.Check

open CairoType Typing

variable {name type : String} {a : Arg} {n : Int} {decls : Declarations}

/-! ## Integers -/

theorem integer?_eq_some_iff : integer? a = some n ↔ Denotes a n := by
  constructor
  · intro h
    cases a with
    | number => cases h; exact .number _
    | bigint => cases h; exact .bigint _
    | text s => exact .text h
    | _ => cases h
  · intro h
    cases h with
    | number => rfl
    | bigint => rfl
    | text h => exact h

theorem integer_eq_ok_iff {expected : String} :
    integer name type expected a = .ok n ↔ Denotes a n := by
  rw [← integer?_eq_some_iff]
  unfold integer
  cases integer? a <;> simp

/-- A bound one below a power of two is a number of bits. -/
theorem contains_iff_inBits {bits : Nat} {label : String} :
    (Bound.mk (2 ^ bits - 1) label).contains n = true ↔ InBits bits n := by
  have h : ((2 ^ bits - 1 : Nat) : Int) = 2 ^ bits - 1 := by
    rw [Int.natCast_sub Nat.one_le_two_pow]
    push_cast
    rfl
  simp only [Bound.contains, Bool.and_eq_true, decide_eq_true_eq, h, InBits]

theorem bound_eq_ok_iff {b : Bound} : bound n name type b = .ok () ↔ b.contains n = true := by
  unfold bound
  split <;> simp [*]

/-- An integer check followed by a bound check. -/
theorem integer_bind_bound_eq_ok_iff {expected : String} {b : Bound} :
    (integer name type expected a >>= fun n => bound n name type b) = .ok () ↔
      ∃ n, Denotes a n ∧ b.contains n = true := by
  simp only [bind_eq_ok_iff, integer_eq_ok_iff, bound_eq_ok_iff]

theorem felt_eq_ok_iff : felt name type a = .ok () ↔ FitsFelt a := by
  unfold felt
  constructor
  · intro h
    split at h
    · rename_i hp
      cases a with
      | text s => exact .text (by simpa [isPlainText] using hp)
      | _ => cases hp
    · obtain ⟨n, hn, hb⟩ := integer_bind_bound_eq_ok_iff.mp h
      exact .integer hn (contains_iff_inBits.mp hb)
  · intro h
    cases h with
    | text hs => simp [isPlainText, hs]
    | integer hn hb =>
      split
      · rfl
      · exact integer_bind_bound_eq_ok_iff.mpr ⟨_, hn, contains_iff_inBits.mpr hb⟩

theorem fitsHalf_iff : Split.fitsHalf n = true ↔ InBits 128 n := by
  simp only [Split.fitsHalf, Bool.and_eq_true, decide_eq_true_eq, InBits, Int.le_sub_one_iff]
  rfl

theorem half_eq_ok_iff : half name type a = .ok n ↔ Denotes a n ∧ InBits 128 n := by
  simp only [half, bind_eq_ok_iff, integer_eq_ok_iff, ← fitsHalf_iff]
  constructor
  · rintro ⟨m, hm, h⟩
    split at h
    · rename_i hf
      cases h
      exact ⟨hm, hf⟩
    · cases h
  · rintro ⟨hn, hf⟩
    exact ⟨n, hn, by rw [if_pos hf]⟩

/-- The integer that a split or whole form stands for. -/
theorem wholeOrSplit_object_eq_ok_iff {members : List (String × Arg)} :
    wholeOrSplit name type (.object members) = .ok n ↔
      ∃ low high l h, Assoc.get? members "low" = some low ∧
        Assoc.get? members "high" = some high ∧ (Denotes low l ∧ InBits 128 l) ∧
        (Denotes high h ∧ InBits 128 h) ∧ n = l + h * 2 ^ 128 := by
  simp only [wholeOrSplit]
  constructor
  · intro h
    split at h
    · rename_i low high hlow hhigh
      obtain ⟨l, hl, h⟩ := bind_eq_ok_iff.mp h
      obtain ⟨u, hu, h⟩ := bind_eq_ok_iff.mp h
      cases h
      exact ⟨low, high, l, u, hlow, hhigh, half_eq_ok_iff.mp hl, half_eq_ok_iff.mp hu, rfl⟩
    · cases h
  · rintro ⟨low, high, l, u, hlow, hhigh, hl, hu, rfl⟩
    simp only [hlow, hhigh]
    exact bind_eq_ok_iff.mpr ⟨l, half_eq_ok_iff.mpr hl,
      bind_eq_ok_iff.mpr ⟨u, half_eq_ok_iff.mpr hu, rfl⟩⟩

theorem wholeOrSplit_eq_ok_iff (ha : ∀ members, a ≠ .object members) :
    wholeOrSplit name type a = .ok n ↔ Denotes a n := by
  rw [← @integer_eq_ok_iff name type _ _ bigNumberish]
  cases a with
  | object members => exact absurd rfl (ha members)
  | _ => rfl

/-- Only a number above `2 ^ 53 - 1` is too large among the arguments that denote an integer. -/
theorem isOversize_eq_false_iff (h : Denotes a n) :
    isOversize a = false ↔ ∀ m, a = .number m → m ≤ 2 ^ 53 - 1 := by
  cases h with
  | number =>
    simp only [isOversize, decide_eq_false_iff_not, Int.not_lt, Arg.number.injEq, forall_eq']
    rfl
  | bigint => simp [isOversize]
  | text => simp [isOversize]

/-- Once its integer is read, an argument is judged by the range. -/
theorem uint_of_wholeOrSplit {b : Bound} (hs : isOversize a = false)
    (hw : wholeOrSplit name type a = .ok n) : uint name type b a = bound n name type b := by
  rw [uint, hs, hw]
  rfl

theorem ne_object_of_denotes (h : Denotes a n) (members : List (String × Arg)) :
    a ≠ .object members := by
  rintro rfl
  cases h

/-- A scalar is judged by the integer that it denotes. -/
theorem uint_of_denotes {b : Bound} (hs : isOversize a = false) (hd : Denotes a n) :
    uint name type b a = bound n name type b :=
  uint_of_wholeOrSplit hs ((wholeOrSplit_eq_ok_iff (ne_object_of_denotes hd)).mpr hd)

theorem uint_eq_ok_iff {w : Width} : uint name type (.uint w) a = .ok () ↔ FitsUint w.bits a := by
  constructor
  · intro h
    unfold uint at h
    split at h
    · cases h
    rename_i hs
    obtain ⟨n, hn, hb⟩ := bind_eq_ok_iff.mp h
    have hb := contains_iff_inBits.mp (bound_eq_ok_iff.mp hb)
    by_cases ha : ∃ members, a = .object members
    · obtain ⟨members, rfl⟩ := ha
      obtain ⟨low, high, l, u, hlow, hhigh, hl, hu, rfl⟩ := wholeOrSplit_object_eq_ok_iff.mp hn
      exact .split hlow hhigh hl.1 hu.1 hl.2 hu.2 hb.2
    · have hd := (wholeOrSplit_eq_ok_iff (not_exists.mp ha)).mp hn
      exact .whole ((isOversize_eq_false_iff hd).mp (eq_false_of_ne_true hs)) hd hb
  · intro h
    cases h with
    | whole hs hd hb =>
      rw [uint_of_denotes ((isOversize_eq_false_iff hd).mpr hs) hd]
      exact bound_eq_ok_iff.mpr (contains_iff_inBits.mpr hb)
    | split hlow hhigh hl hh hl128 hh128 hn =>
      rw [uint_of_wholeOrSplit rfl (wholeOrSplit_object_eq_ok_iff.mpr
        ⟨_, _, _, _, hlow, hhigh, ⟨hl, hl128⟩, ⟨hh, hh128⟩, rfl⟩)]
      have h0 := Int.add_nonneg hl128.1 (Int.mul_nonneg hh128.1 (by decide : (0 : Int) ≤ 2 ^ 128))
      exact bound_eq_ok_iff.mpr (contains_iff_inBits.mpr ⟨h0, hn⟩)

theorem ethAddress_eq_ok_iff :
    ethAddress name type a = .ok () ↔ ∃ n, Denotes a n ∧ InBits 160 n := by
  unfold ethAddress
  rw [integer_bind_bound_eq_ok_iff]
  exact exists_congr fun n => and_congr_right fun _ => contains_iff_inBits

/-! ## The other kinds -/

theorem bool_eq_ok_iff : bool name type a = .ok () ↔ ∃ b, a = .bool b := by
  cases a <;> simp [bool]

theorem members_eq_ok_iff {given : List (String × Arg)} {declared : List Abi.Component} :
    members name given declared = .ok () ↔
      ∀ m ∈ declared, ∃ v, Assoc.get? given m.name = some v := by
  induction declared with
  | nil => simp [members]
  | cons m rest ih =>
    rw [members, List.forall_mem_cons, ← Option.isSome_iff_exists]
    split
    · rename_i hm
      rw [ih]
      exact ⟨fun h => ⟨hm, h⟩, fun h => h.2⟩
    · rename_i hm
      exact ⟨nofun, fun h => absurd h.1 hm⟩

/-- A struct type other than `u256`, which `classify` never gives the kind of a struct. -/
theorem struct_eq_ok_iff (hu : isUint256 type = false) :
    struct decls name type a = .ok () ↔ FitsStruct decls type a := by
  unfold struct
  rw [if_neg (by simp [hu])]
  by_cases ht : isEthAddress type = true
  · rw [if_pos ht, ethAddress_eq_ok_iff]
    constructor
    · rintro ⟨n, hn, hb⟩
      exact .ethAddress ht hn hb
    · intro h
      cases h with
      | ethAddress _ hn hb => exact ⟨_, hn, hb⟩
      | members ht' => rw [ht] at ht'; cases ht'
  · have ht := eq_false_of_ne_true ht
    rw [if_neg (by simp [ht])]
    constructor
    · intro h
      split at h
      · split at h
        · rename_i hd
          exact .members ht hd (members_eq_ok_iff.mp h)
        · cases h
      · cases h
    · intro h
      cases h with
      | ethAddress ht' => rw [ht] at ht'; cases ht'
      | members _ hd hm =>
        simp only [hd]
        exact members_eq_ok_iff.mpr hm

theorem enum_eq_ok_iff {sort : EnumSort} : enum name type sort a = .ok () ↔ FitsEnum sort a := by
  constructor
  · intro h
    unfold enum at h
    split at h <;> first | constructor | cases h
  · intro h
    cases h <;> simp [enum]

theorem tuple_eq_ok_iff : tuple name type a = .ok () ↔ FitsTuple a := by
  constructor
  · intro h
    unfold tuple at h
    split at h <;> first | constructor | cases h
  · intro h
    cases h <;> rfl

/-! ## Types -/

theorem isLongText_eq_true_iff : isLongText a = true ↔ ∃ s, a = .text s ∧ 31 < s.length := by
  cases a <;> simp [isLongText, ShortText.isLong_iff, ShortText.maxLength]

theorem items_eq_ok_iff {k : Kind} {given : List Arg} :
    items decls name type k given = .ok () ↔ ∀ a ∈ given, kind decls name type k a = .ok () := by
  induction given with
  | nil => simp [items]
  | cons a rest ih =>
    rw [items, bind_eq_ok_iff, List.forall_mem_cons, ih]
    exact ⟨fun ⟨_, ha, hr⟩ => ⟨ha, hr⟩, fun ⟨ha, hr⟩ => ⟨(), ha, hr⟩⟩

/-- One level of an array type: a long text where the items are felts, or an array of items that
pass the check for the type of the items. -/
theorem kind_array_eq_ok_iff {element : String} :
    kind decls name type (.array element) a = .ok () ↔
      (isFelt element = true ∧ ∃ s, a = .text s ∧ 31 < s.length) ∨
        ∃ given k, a = .array given ∧ classify decls element = some k ∧
          ∀ item ∈ given, kind decls name element k item = .ok () := by
  rw [← isLongText_eq_true_iff, kind.eq_def]
  dsimp only
  split
  · rename_i hl
    exact ⟨fun _ => .inl (Bool.and_eq_true_iff.mp hl), fun _ => rfl⟩
  · rename_i hl
    rw [or_iff_right (mt Bool.and_eq_true_iff.mpr hl)]
    constructor
    · intro h
      split at h
      · split at h
        · rename_i given _ k hk
          exact ⟨given, k, rfl, hk, items_eq_ok_iff.mp h⟩
        · cases h
      · cases h
    · rintro ⟨given, k, rfl, hk, hi⟩
      simp only [hk]
      exact items_eq_ok_iff.mpr hi

/-- The unsigned integer types are classified by their name, whatever is declared. -/
theorem classify_typeName (w : Width) : classify decls w.typeName = some (.uint w) := by
  have hf : isFelt w.typeName = false := by cases w <;> decide
  simp [classify, hf, Width.ofType?_typeName]

theorem isUint256_eq_false_of_classify (hk : classify decls type = some .struct) :
    isUint256 type = false := by
  refine eq_false_of_ne_true fun hu => ?_
  rw [show type = Width.u256.typeName from beq_iff_eq.mp hu, classify_typeName] at hk
  cases hk

/-- The check against the kind of a type. Only arrays nest, so the induction is on their nesting;
the type and its kind change at each level. -/
theorem kind_eq_ok_iff {k : Kind} (hk : classify decls type = some k) :
    kind decls name type k a = .ok () ↔ FitsKind decls type k a := by
  induction a using Arg.itemInduction generalizing type k with
  | step a ih =>
    cases k with
    | array element =>
      rw [kind_array_eq_ok_iff]
      refine or_congr_right ⟨?_, ?_⟩
      · rintro ⟨given, k, rfl, he, hi⟩
        exact ⟨given, rfl, ⟨k, he⟩, fun item hm => ((ih given rfl item hm he).mp (hi item hm)).accepts he⟩
      · rintro ⟨given, rfl, ⟨k, he⟩, hi⟩
        exact ⟨given, k, rfl, he, fun item hm =>
          (ih given rfl item hm he).mpr ((accepts_iff_fitsKind he).mp (hi item hm))⟩
    | felt => rw [kind]; exact felt_eq_ok_iff
    | literal which => rw [kind]; exact felt_eq_ok_iff
    | uint w => rw [kind]; exact uint_eq_ok_iff
    | bool => rw [kind]; exact bool_eq_ok_iff
    | struct => rw [kind]; exact struct_eq_ok_iff (isUint256_eq_false_of_classify hk)
    | enum sort => rw [kind]; exact enum_eq_ok_iff
    | tuple => rw [kind]; exact tuple_eq_ok_iff

/-- A type of a known kind is checked as that kind. -/
theorem value_of_classify {k : Kind} (hk : classify decls type = some k) :
    value decls name type a = kind decls name type k a := by
  rw [value, hk]

/-- The check of an argument against a type decides `Accepts`. -/
theorem value_eq_ok_iff : value decls name type a = .ok () ↔ Accepts decls type a := by
  unfold value
  cases hk : classify decls type with
  | some k => exact (kind_eq_ok_iff hk).trans (accepts_iff_fitsKind hk).symm
  | none => exact ⟨nofun, fun h => absurd h (not_accepts_of_classify_none hk)⟩

/-! ## Slots -/

/-- Every slot finds an argument at its place that passes the check for its type. -/
theorem slots_eq_ok_iff {position : Nat} {ps : List Abi.Param} {given : List Arg} :
    slots decls position ps given = .ok () ↔ ps.length ≤ given.length ∧
      ∀ (i : Nat) p a, ps[i]? = some p → given[i]? = some a →
        value decls p.name p.type a = .ok () := by
  induction ps generalizing position given with
  | nil => simp [slots]
  | cons p rest ih =>
    cases given with
    | nil => simp [slots]
    | cons a further =>
      rw [slots, bind_eq_ok_iff, List.length_cons, List.length_cons, Nat.succ_le_succ_iff]
      constructor
      · rintro ⟨_, ha, hr⟩
        obtain ⟨hl, hr⟩ := ih.mp hr
        refine ⟨hl, fun i q b hq hb => ?_⟩
        cases i with
        | zero => cases hq; cases hb; exact ha
        | succ i => exact hr i q b hq hb
      · rintro ⟨hl, h⟩
        exact ⟨(), h 0 p a rfl rfl, ih.mpr ⟨hl, fun i q b hq hb => h (i + 1) q b hq hb⟩⟩

/-- The arguments of a call pass exactly if there is one for each slot and each slot's type accepts
the argument at its place. -/
theorem args_eq_ok_iff_accepts (decls : Declarations) (f : Abi.Signature) (given : List Arg) :
    args decls f given = .ok () ↔ f.slots.length ≤ given.length ∧
      ∀ (i : Nat) p a, f.slots[i]? = some p → given[i]? = some a → Accepts decls p.type a := by
  unfold args
  rw [slots_eq_ok_iff]
  simp only [value_eq_ok_iff]

end ContractCall.Check
