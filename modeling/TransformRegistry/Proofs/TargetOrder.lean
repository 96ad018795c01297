import Mathlib.Data.List.Nodup
import TransformRegistry.Store.Description

/-!
# Targets in order

Targets are ordered by their parts, one after another, and a target is known by its parts. So the
order is total, and of two targets that are not the same one comes first. So it is with the names of
classes.
-/

namespace TransformRegistry

instance : Std.TransOrd Kind :=
  inferInstanceAs (Std.TransCmp (compareOn Kind.index))

theorem Kind.index_injective {k l : Kind} (h : k.index = l.index) : k = l := by
  have same : all[k.index]? = all[l.index]? := by rw [h]
  rw [index_eq, index_eq] at same
  exact Option.some.inj same

instance : Std.TransOrd ClassName :=
  inferInstanceAs (Std.TransCmp (compareOn ClassName.text))

/-! ## Sorting by a total order -/

section Sorting

variable {α : Type} [Ord α] [Std.TransOrd α]

theorem mergeSort_ordered (l : List α) :
    (l.mergeSort fun a b => (compare a b).isLE).Pairwise fun a b => (compare a b).isLE = true := by
  have total (a b : α) : ((compare a b).isLE || (compare b a).isLE) = true := by
    have swapped : compare b a = (compare a b).swap := Std.OrientedCmp.eq_swap
    rw [swapped]
    cases compare a b <;> rfl
  exact List.pairwise_mergeSort (fun _ _ _ => Std.TransCmp.isLE_trans) total l

variable [Std.LawfulEqOrd α]

theorem mergeSort_increasing {l : List α} (distinct : l.Nodup) :
    (l.mergeSort fun a b => (compare a b).isLE).Pairwise fun a b => compare a b = .lt := by
  have still : (l.mergeSort fun a b => (compare a b).isLE).Nodup :=
    (List.mergeSort_perm l _).nodup_iff.2 distinct
  refine List.Pairwise.imp₂ ?_ (mergeSort_ordered l) still
  intro a b before different
  rcases Ordering.isLE_iff_eq_lt_or_eq_eq.1 before with lt | eq
  · exact lt
  · exact absurd (Std.LawfulEqOrd.eq_of_compare eq) different

theorem mergeSort_eq_of_perm {l m : List α} (perm : l.Perm m) :
    (l.mergeSort fun a b => (compare a b).isLE) = m.mergeSort fun a b => (compare a b).isLE := by
  have same := (List.mergeSort_perm l fun a b => (compare a b).isLE).trans
    (perm.trans (List.mergeSort_perm m fun a b => (compare a b).isLE).symm)
  refine same.eq_of_pairwise (fun a b _ _ before after => ?_) (mergeSort_ordered l)
    (mergeSort_ordered m)
  exact Std.LawfulEqOrd.eq_of_compare (Std.OrientedCmp.isLE_antisymm before after)

end Sorting

/-! ## Names of classes -/

namespace ClassName

instance : Std.LawfulEqOrd ClassName where
  eq_of_compare same := ext (Std.LawfulEqOrd.eq_of_compare (α := String) same)

theorem mem_sort {names : List ClassName} {n : ClassName} : n ∈ sort names ↔ n ∈ names :=
  List.mem_mergeSort

theorem sort_eq_of_perm {a b : List ClassName} (perm : a.Perm b) : sort a = sort b :=
  mergeSort_eq_of_perm perm

theorem sort_increasing {names : List ClassName} (distinct : names.Nodup) :
    (sort names).Pairwise fun a b => a.text < b.text :=
  (mergeSort_increasing distinct).imp fun before => compareOfLessAndEq_eq_lt.1 before

end ClassName

/-! ## Targets -/

namespace Target

instance : Std.TransOrd Target :=
  inferInstanceAs (Std.TransCmp (compareLex (compareOn kind) (compareLex (compareOn owner)
    (compareLex (compareOn name?) (compareOn descriptor?)))))

theorem compare_eq_then (a b : Target) :
    compare a b = (compare a.kind b.kind).then ((compare a.owner b.owner).then
      ((compare a.name? b.name?).then (compare a.descriptor? b.descriptor?))) := rfl

/-- Only a target itself is neither before nor after it. -/
instance : Std.LawfulEqOrd Target where
  eq_of_compare {a b} same := by
    rw [compare_eq_then] at same
    simp only [Ordering.then_eq_eq] at same
    obtain ⟨sameKind, sameOwner, sameName, sameDescriptor⟩ := same
    have kinds : a.kind = b.kind := Kind.index_injective (Std.LawfulEqOrd.eq_of_compare sameKind)
    have owners : a.owner = b.owner := Std.LawfulEqOrd.eq_of_compare sameOwner
    have names : a.name? = b.name? := Std.LawfulEqOrd.eq_of_compare sameName
    have descriptors : a.descriptor? = b.descriptor? := Std.LawfulEqOrd.eq_of_compare sameDescriptor
    exact ext_parts kinds owners names descriptors

theorem mem_sort {ts : List Target} {t : Target} : t ∈ sort ts ↔ t ∈ ts := List.mem_mergeSort

theorem sort_increasing {ts : List Target} (distinct : ts.Nodup) :
    (sort ts).Pairwise fun a b => compare a b = .lt :=
  mergeSort_increasing distinct

end Target

end TransformRegistry
