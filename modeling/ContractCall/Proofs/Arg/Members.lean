import ContractCall.Arg
import ContractCall.Assoc
import Mathlib.Data.String.Basic

/-!
# The members of an object

The members of an object are sorted by key, and `Arg.ofMembers` sorts the members that it is given.

* `Sorted members`: the keys ascend, so that no key is repeated.
* `sorted_of_ofMembers`: an object made of members is sorted, whatever the members.
* `ofMembers_of_perm`: the members of a sorted object make that object, in whichever order they come.
-/

namespace ContractCall.Arg

variable {members given new : List (String × Arg)} {key : String} {value : Arg}
  {m : String × Arg}

/-- The keys of the members ascend. -/
def Sorted (members : List (String × Arg)) : Prop :=
  members.Pairwise fun m m' => m.1 < m'.1

/-! ## One member -/

theorem mem_of_mem_putSorted (h : m ∈ putSorted members key value) :
    m = (key, value) ∨ m ∈ members := by
  induction members with
  | nil => exact .inl (List.mem_singleton.mp h)
  | cons m' rest ih =>
    obtain ⟨k, v⟩ := m'
    rw [putSorted] at h
    split_ifs at h with hlt hk
    · exact List.mem_cons.mp h
    · rw [hk] at h
      exact (List.mem_cons.mp h).imp_right (List.mem_cons_of_mem _)
    · rcases List.mem_cons.mp h with h | h
      · exact .inr (h ▸ List.mem_cons_self)
      · exact (ih h).imp_right (List.mem_cons_of_mem _)

theorem Sorted.putSorted (h : Sorted members) (key : String) (value : Arg) :
    Sorted (putSorted members key value) := by
  induction members with
  | nil => exact List.pairwise_singleton _ _
  | cons m' rest ih =>
    obtain ⟨k, v⟩ := m'
    obtain ⟨hk, hr⟩ := List.pairwise_cons.mp h
    rw [Arg.putSorted]
    split_ifs with hlt heq
    · refine List.pairwise_cons.mpr ⟨List.forall_mem_cons.mpr ⟨hlt, fun m hm => ?_⟩, h⟩
      exact lt_trans hlt (hk m hm)
    · exact List.pairwise_cons.mpr ⟨hk, hr⟩
    · refine List.pairwise_cons.mpr ⟨fun m hm => ?_, ih hr⟩
      rcases mem_of_mem_putSorted hm with rfl | hm
      · exact lt_of_le_of_ne (not_lt.mp hlt) heq
      · exact hk m hm

/-- A member under a new key is added to the others. -/
theorem putSorted_perm (hk : key ∉ Assoc.keys members) (value : Arg) :
    (putSorted members key value).Perm ((key, value) :: members) := by
  induction members with
  | nil => exact .refl _
  | cons m' rest ih =>
    obtain ⟨k, v⟩ := m'
    rw [Assoc.keys, List.map_cons, List.mem_cons, not_or] at hk
    rw [putSorted]
    split_ifs with hlt heq
    · exact .refl _
    · exact absurd heq.symm hk.1
    · exact ((ih hk.2).cons _).trans (.swap _ _ _)

/-! ## All members -/

theorem Sorted.foldl_putSorted (h : Sorted members) (new : List (String × Arg)) :
    Sorted (new.foldl (fun sorted m => Arg.putSorted sorted m.1 m.2) members) := by
  induction new generalizing members with
  | nil => exact h
  | cons m new ih => exact ih (h.putSorted m.1 m.2)

/-- Members under different keys are all kept. -/
theorem foldl_putSorted_perm (hk : (Assoc.keys (members ++ new)).Nodup) :
    (new.foldl (fun sorted m => putSorted sorted m.1 m.2) members).Perm (members ++ new) := by
  induction new generalizing members with
  | nil => rw [List.append_nil, List.foldl_nil]
  | cons m new ih =>
    have hm : (members ++ m :: new).Perm (m :: members ++ new) := List.perm_middle
    have hk' : (Assoc.keys (m :: members ++ new)).Nodup := (hm.map Prod.fst).nodup_iff.mp hk
    have hnew : m.1 ∉ Assoc.keys members := by
      rw [Assoc.keys, List.cons_append, List.map_cons, List.nodup_cons, List.map_append,
        List.mem_append, not_or] at hk'
      exact hk'.1.1
    have hp : (putSorted members m.1 m.2).Perm (m :: members) := putSorted_perm hnew m.2
    have hpn : (Assoc.keys (putSorted members m.1 m.2 ++ new)).Nodup :=
      ((hp.append_right new).map Prod.fst).nodup_iff.mpr hk'
    exact ((ih hpn).trans (hp.append_right new)).trans hm.symm

/-- Whatever an object is made of, its members are sorted. -/
theorem sorted_of_ofMembers (h : ofMembers given = .object members) : Sorted members := by
  cases h
  exact Sorted.foldl_putSorted List.Pairwise.nil given

theorem Sorted.nodup_keys (h : Sorted members) : (Assoc.keys members).Nodup :=
  List.pairwise_map.mpr (h.imp fun hlt => ne_of_lt hlt)

/-- A sorted object is made of its own members in any order: what they make is sorted as well, and
has the same members. -/
theorem ofMembers_of_perm (h : Sorted members) (hp : given.Perm members) :
    ofMembers given = .object members := by
  obtain ⟨made, hg⟩ : ∃ made, ofMembers given = .object made := ⟨_, rfl⟩
  have hs : Sorted made := sorted_of_ofMembers hg
  have hk : (Assoc.keys ([] ++ given)).Nodup := (hp.map Prod.fst).nodup_iff.mpr h.nodup_keys
  have hm : made.Perm members := by
    cases hg
    exact (foldl_putSorted_perm hk).trans hp
  rw [hg, hm.eq_of_pairwise (fun _ _ _ _ hlt hgt => absurd hgt hlt.asymm) hs h]

end ContractCall.Arg
