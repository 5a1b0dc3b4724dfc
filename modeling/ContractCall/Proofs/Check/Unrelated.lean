import ContractCall.Proofs.CairoType.Leaf
import ContractCall.Proofs.Check.Agreement

/-!
# Declarations that do not matter

The check of an argument against a type asks the declarations for one name at most, the leaf of the
type, and not even for that where the text of the leaf says what it is.

* `isScalar`: the text of the type makes it a felt, an unsigned integer, a literal or a truth value.
* `agreeOn_leaf`: declarations that are the same at the leaf of a type are so at every type on the
  way to it.
* `unrelated_declarations_irrelevant`: such declarations give every argument the same outcome, and
  where the leaf is scalar all declarations do.
-/

namespace ContractCall

namespace CairoType

/-- The text of the type makes it a felt, an unsigned integer, a literal or a truth value. -/
def isScalar (type : String) : Bool :=
  isFelt type || isUint type || isLiteral type || isBool type

theorem isBuiltin_eq_false_iff {type : String} :
    isBuiltin type = false ↔ isScalar type = false ∧ isArray type = false := by
  rw [isBuiltin, isScalar, Bool.or_eq_false_iff]

end CairoType

namespace Check

open CairoType

variable {decls decls' : Declarations} {type : String}

/-- The types with one leaf are closed under taking items, and only the leaf itself is looked up. -/
theorem agreeOn_leaf (h : isScalar (leaf type) = false → decls.SameAt decls' (leaf type)) :
    decls.AgreeOn (fun t => leaf t = leaf type) decls' where
  element t ht ha := by rw [← leaf_of_isArray ha, ht]
  same t ht hb := by
    obtain ⟨hs, ha⟩ := isBuiltin_eq_false_iff.mp hb
    obtain rfl : t = leaf type := by rw [← ht, leaf_of_not_isArray ha]
    exact h hs

/-- The outcome of a check, every field of a refusal included, depends on the declarations only
through the struct that is declared under the leaf of the type and on whether an enum is. Where the
leaf is scalar it does not depend on them at all. -/
theorem unrelated_declarations_irrelevant (decls decls' : Declarations) (type : String) :
    (decls.SameAt decls' (leaf type) →
      ∀ name arg, value decls name type arg = value decls' name type arg) ∧
    (isScalar (leaf type) = true →
      ∀ name arg, value decls name type arg = value decls' name type arg) := by
  constructor
  · intro h name arg
    exact value_congr (agreeOn_leaf fun _ => h) rfl
  · intro hs name arg
    exact value_congr (agreeOn_leaf fun hf => absurd hs (ne_true_of_eq_false hf)) rfl

/-- A point, beside a struct of the name of a point in another module. -/
def points : Declarations :=
  ⟨[("other::Point", ⟨"other::Point", none, []⟩),
    ("demo::Point", ⟨"demo::Point", none, [⟨"x", "core::felt252", none⟩]⟩)], []⟩

/-- The same point, beside declarations of types that are known without any. -/
def pointsAndBuiltins : Declarations :=
  ⟨[("demo::Point", ⟨"demo::Point", none, [⟨"x", "core::felt252", none⟩]⟩),
    ("core::integer::u256", ⟨"core::integer::u256", none, []⟩)],
    [("core::bool", ⟨"core::bool", []⟩)]⟩

/-- Rows of points lack the same member under both, and rows of integers and of truth values do not
see that their types are declared. -/
theorem unrelated_declarations_irrelevant_points :
    (points.SameAt pointsAndBuiltins (leaf (nest [.array, .span] "demo::Point")) ∧
      value points "rows" (nest [.array, .span] "demo::Point")
          (.array [.array [], .array [.object []]]) = .error (.missingMember "rows" "x") ∧
      value pointsAndBuiltins "rows" (nest [.array, .span] "demo::Point")
          (.array [.array [], .array [.object []]]) = .error (.missingMember "rows" "x")) ∧
    isScalar (leaf (nest [.span] "core::integer::u256")) = true ∧
    value pointsAndBuiltins "row" (nest [.span] "core::integer::u256") (.array [.bigint 7]) =
      value points "row" (nest [.span] "core::integer::u256") (.array [.bigint 7]) := by
  have hleaf (ws : List Wrapper) {t : String} (ht : isArray t = false) : leaf (nest ws t) = t := by
    rw [leaf_nest, leaf_of_not_isArray ht]
  have hsame : points.SameAt pointsAndBuiltins (leaf (nest [.array, .span] "demo::Point")) := by
    rw [hleaf _ (by decide)]
    exact ⟨by decide, by decide⟩
  have hscalar : isScalar (leaf (nest [.span] "core::integer::u256")) = true := by
    rw [hleaf _ (by decide)]
    decide
  have hp : value points "rows" (nest [.array, .span] "demo::Point")
      (.array [.array [], .array [.object []]]) = .error (.missingMember "rows" "x") := rfl
  refine ⟨⟨hsame, hp, ?_⟩, hscalar, ?_⟩
  · rw [← (unrelated_declarations_irrelevant points pointsAndBuiltins _).1 hsame, hp]
  · exact (unrelated_declarations_irrelevant pointsAndBuiltins points _).2 hscalar _ _

end Check

end ContractCall
