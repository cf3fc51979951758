import VaultProjection.Key

/-!
# A key names one resource

A key is cut at its first slash. It is refused where nothing stands in front of that slash, where
nothing stands behind it, and where another slash follows. What is left are the keys that a
namespace and a name make.

Results:
1. `split?_eq_some_iff`: which keys are cut, and into what.
2. `unambiguous`: a namespace and a name come back from their key, and no other pair has this key.
-/

namespace VaultProjection.Key

variable {key ns name : String}

/-- What a key is cut into makes the key again, and could have been put into it. -/
theorem parts_of_split? (h : split? key = some (ns, name)) :
    key = join ns name ∧ IsPart ns ∧ IsPart name := by
  unfold split? at h
  split at h
  · cases h
  · next front back hcut =>
    split at h
    · cases h
    · next hrefused =>
      simp only [Option.some.injEq, Prod.mk.injEq] at h
      obtain ⟨rfl, rfl⟩ := h
      obtain ⟨hkey, hfront⟩ := Text.cut?_eq_some hcut
      simp only [Bool.or_eq_true, List.isEmpty_iff, List.contains_iff_mem, not_or] at hrefused
      obtain ⟨⟨hns, hname⟩, hback⟩ := hrefused
      refine ⟨String.toList_inj.1 ?_, ?_, ?_⟩
      · simp [join, hkey]
      · simpa [IsPart] using ⟨hns, hfront⟩
      · simpa [IsPart] using ⟨hname, hback⟩

theorem split?_eq_some_iff :
    split? key = some (ns, name) ↔ key = join ns name ∧ IsPart ns ∧ IsPart name := by
  constructor
  · exact parts_of_split?
  · rintro ⟨rfl, hns, hname⟩
    exact split?_join hns hname

/-- A key is taken apart exactly if it is a namespace and a name with a slash between them, both of
them with some text and without a slash, and then into these two. So every such pair is read back
from its key, two such pairs never share a key, and every key that is taken apart is made again from
its parts. -/
theorem unambiguous :
    (∀ key ns name, split? key = some (ns, name) ↔
      key = join ns name ∧ (ns ≠ "" ∧ '/' ∉ ns.toList) ∧ name ≠ "" ∧ '/' ∉ name.toList) ∧
    (∀ ns name, IsPart ns → IsPart name → split? (join ns name) = some (ns, name)) ∧
    (∀ a b ns name, IsPart a → IsPart b → IsPart ns → IsPart name →
      (a, b) ≠ (ns, name) → join a b ≠ join ns name) ∧
    ∀ key ns name, split? key = some (ns, name) → join ns name = key := by
  refine ⟨fun key ns name => split?_eq_some_iff, fun ns name => split?_join, ?_, ?_⟩
  · intro a b ns name _ _ hns hname hne hsame
    obtain ⟨rfl, rfl⟩ := join_inj hns hname hsame
    exact hne rfl
  · intro key ns name hsplit
    exact (parts_of_split? hsplit).1.symm

/-- A key with two slashes is refused, so it is not taken for a name with a slash in it. -/
theorem unambiguous_prod :
    split? "prod/app" = some ("prod", "app") ∧
      split? "prod/app/login" ≠ some ("prod", "app/login") ∧
      join "prod" "app" ≠ join "prod" "login" := by
  have hprod : IsPart "prod" := by decide
  have happ : IsPart "app" := by decide
  have hlogin : IsPart "login" := by decide
  obtain ⟨hiff, hread, hdiffer, -⟩ := unambiguous
  refine ⟨hread "prod" "app" hprod happ, ?_, ?_⟩
  · rw [Ne, hiff]
    rintro ⟨-, -, -, hslash⟩
    exact hslash (by decide)
  · exact hdiffer "prod" "app" "prod" "login" hprod happ hprod hlogin (by decide)

end VaultProjection.Key
