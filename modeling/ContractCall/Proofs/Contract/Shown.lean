import ContractCall.Proofs.Contract.Mutability

/-!
# The signature that is shown for a name

`Layout.method?` shows the signature of a name: that of the first callable entry. A call of the name
checks its arguments against the first function instead, so constructors and handlers are passed
over there. In an ABI without interfaces both look through the same entries.

* `Hidden abi f`: another signature is shown for the name of the function `f`.
* `method?_eq_some_of_hidden`: what is shown then.
* `function_of_callable?`: what is shown is a function only if it is the first one of the name.
* `shown_iff_not_hidden`: exactly when the signature that is shown is the one of the check.
-/

namespace ContractCall

namespace Abi

/-- A constructor or a handler of the name of `f`, with another signature than `f`, stands before
every other callable entry of that name. -/
def Hidden (abi : Abi) (f : Signature) : Prop :=
  ∃ before e after g, abi.entries = before ++ e :: after ∧
    (∀ b ∈ before, b.callable? f.name = none) ∧ (e = .constructor g ∨ e = .l1Handler g) ∧
    g.name = f.name ∧ g ≠ f

variable {abi : Abi} {f g : Signature} {name : String}

theorem method?_of_not_hasInterface (h : abi.hasInterface = false) (name : String) :
    abi.layout.method? abi name = .ok (abi.entries.findSome? (Entry.callable? name)) := by
  rw [layout_eq_flat_iff.mpr h]
  rfl

/-- Another signature than that of a hidden function is found first. -/
theorem method?_eq_some_of_hidden (h : abi.Hidden f) :
    ∃ g, abi.entries.findSome? (Entry.callable? f.name) = some g ∧ g ≠ f := by
  obtain ⟨before, e, after, g, hs, hb, he, hn, hg⟩ := h
  have hc : e.callable? f.name = some g :=
    Entry.callable?_eq_some_iff.mpr ⟨Entry.signature?_eq_some_iff.mpr (.inr he), hn⟩
  exact ⟨g, List.findSome?_eq_some_iff.mpr ⟨before, e, after, hs, hc, hb⟩, hg⟩

/-- Where the first callable entry of a name is a function, it is the first function of the name. -/
theorem function_of_callable? {entries before after : List Entry}
    (hs : entries = before ++ Entry.function g :: after) (hn : g.name = name)
    (hb : ∀ b ∈ before, b.callable? name = none) :
    entries.findSome? (fun e => e.function?.filter fun f => f.name == name) = some g := by
  refine List.findSome?_eq_some_iff.mpr ⟨before, _, after, hs, ?_, fun b hm => ?_⟩
  · rw [Entry.function?, Option.filter_some, if_pos (beq_iff_eq.mpr hn)]
  · rw [Option.filter_eq_none_iff]
    rintro k hk hkn
    obtain rfl := Entry.function?_eq_some_iff.mp hk
    have hc : (Entry.function k).callable? name = some k :=
      Entry.callable?_eq_some_iff.mpr ⟨rfl, beq_iff_eq.mp hkn⟩
    rw [hb _ hm] at hc
    cases hc

end Abi

namespace Contract

open Abi

variable {abi : Abi} {view : Bool} {method : String} {args : List Arg} {f g : Signature}

/-- A lookup that does not fail selects a function, and its arguments are checked. -/
theorem exists_method?_of_check_ne_notFound
    (h : ∀ sort name, (ofAbi abi).check (.ofView view) method args ≠ notFound sort name) :
    ∃ f, (ofAbi abi).method? (.ofView view) method = some f ∧
      (ofAbi abi).check (.ofView view) method args = (ofAbi abi).checkArgs f args := by
  have ha : (ofAbi abi).isAvailable (.ofView view) method = true := by
    refine Classical.byContradiction fun ha => ?_
    exact h _ _ (by rw [check, if_neg ha])
  obtain ⟨f, hf⟩ := exists_method?_of_isAvailable ha
  exact ⟨f, hf, by rw [check, if_pos ha, hf]⟩

/-- In an ABI without interfaces, a call that finds a method checks its arguments against the first
function of the name, and a signature is shown for the name. It is the one of the check, except
where a constructor or a handler of another signature hides the function. -/
theorem shown_iff_not_hidden (abi : Abi) (hi : abi.hasInterface = false) (view : Bool)
    (method : String) (args : List Arg)
    (hl : ∀ sort name, (ofAbi abi).check (.ofView view) method args ≠ notFound sort name) :
    ∃ f g, (ofAbi abi).method? (.ofView view) method = some f ∧
      (ofAbi abi).check (.ofView view) method args = (ofAbi abi).checkArgs f args ∧
      abi.layout.method? abi method = .ok (some g) ∧ (g = f ↔ ¬ abi.Hidden f) := by
  obtain ⟨f, hf, hc⟩ := exists_method?_of_check_ne_notFound hl
  obtain ⟨hmem, rfl⟩ := mem_entries_of_method? hf
  have hfirst : abi.entries.findSome? (fun e => e.function?.filter fun g => g.name == f.name) =
      some f := by
    rw [method?_eq_findSome?, ofAbi_abi, flatten_of_not_hasInterface hi] at hf
    cases view <;> exact hf
  rw [flatten_of_not_hasInterface hi] at hmem
  obtain ⟨g, hg⟩ : ∃ g, abi.entries.findSome? (Entry.callable? f.name) = some g := by
    rw [← Option.isSome_iff_exists, List.findSome?_isSome_iff]
    exact ⟨_, hmem, by rw [Entry.callable?_eq_some_iff.mpr ⟨rfl, rfl⟩]; rfl⟩
  refine ⟨f, g, hf, hc, by rw [method?_of_not_hasInterface hi, hg], ?_⟩
  constructor
  · rintro rfl hh
    obtain ⟨k, hk, hne⟩ := method?_eq_some_of_hidden hh
    rw [hg] at hk
    exact hne (Option.some.inj hk).symm
  · intro hh
    refine Classical.byContradiction fun hne => ?_
    obtain ⟨before, e, after, hs, he, hb⟩ := List.findSome?_eq_some_iff.mp hg
    obtain ⟨he, hn⟩ := Entry.callable?_eq_some_iff.mp he
    rcases Entry.signature?_eq_some_iff.mp he with rfl | he
    · rw [function_of_callable? hs hn hb] at hfirst
      exact hne (Option.some.inj hfirst)
    · exact hh ⟨before, e, after, g, hs, hb, he, hn, hne⟩

/-! ## A handler before a function of its name -/

/-- A function that takes the amount to deposit. -/
def deposit : Signature where
  name := "deposit"
  inputs := [⟨"amount", "core::integer::u256"⟩]
  outputs := []
  stateMutability := some "external"

/-- A handler of messages from layer 1 with the name of the function. It also takes the sender. -/
def handleDeposit : Signature where
  name := "deposit"
  inputs := [⟨"from_address", "core::felt252"⟩, ⟨"amount", "core::integer::u256"⟩]
  outputs := []
  stateMutability := some "external"

/-- An ABI with both, the handler first. -/
def twoDeposits : Abi := ⟨[.l1Handler handleDeposit, .function deposit]⟩

theorem check_twoDeposits :
    (ofAbi twoDeposits).check .invoke "deposit" [.text "0x1"] = .ok () := rfl

/-- The call checks the argument of the function, and a signature is shown that is the function's
exactly if the handler does not hide it. -/
theorem shown_iff_not_hidden_deposit :
    twoDeposits.hasInterface = false ∧
      (∀ sort name, (ofAbi twoDeposits).check .invoke "deposit" [.text "0x1"] ≠
        notFound sort name) ∧
      ∃ f g, (ofAbi twoDeposits).method? .invoke "deposit" = some f ∧
        (ofAbi twoDeposits).check .invoke "deposit" [.text "0x1"] =
          (ofAbi twoDeposits).checkArgs f [.text "0x1"] ∧
        twoDeposits.layout.method? twoDeposits "deposit" = .ok (some g) ∧
        (g = f ↔ ¬ twoDeposits.Hidden f) := by
  have hl : ∀ sort name, (ofAbi twoDeposits).check .invoke "deposit" [.text "0x1"] ≠
      notFound sort name := by
    rw [check_twoDeposits]
    nofun
  exact ⟨rfl, hl, shown_iff_not_hidden twoDeposits rfl false "deposit" [.text "0x1"] hl⟩

/-- The signature of the handler is shown, although the call is one of the function. -/
theorem not_shown_twoDeposits :
    twoDeposits.hasInterface = false ∧
      (ofAbi twoDeposits).check .invoke "deposit" [.text "0x1"] = .ok () ∧
      (ofAbi twoDeposits).method? .invoke "deposit" = some deposit ∧
      twoDeposits.layout.method? twoDeposits "deposit" = .ok (some handleDeposit) ∧
      handleDeposit ≠ deposit :=
  ⟨rfl, rfl, rfl, rfl, by decide⟩

end Contract

end ContractCall
