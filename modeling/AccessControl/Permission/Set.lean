import AccessControl.Permission.Matching
/-!
# Sets of permissions

A set of codes and patterns is the list of its members in the order of their code points, each once,
so that whatever is listed or searched comes in one order. The set keeps members as they are,
malformed ones included.
-/
namespace AccessControl

/-- A set of texts, listed in the order of their code points. -/
structure PermissionSet where
  /-- The members. -/
  toList : List String
  /-- They are in order, and each is there once. -/
  sorted : toList.Pairwise (· < ·) := by exact List.Pairwise.nil
  deriving DecidableEq

namespace PermissionSet

/-- The set without members. -/
def empty : PermissionSet := { toList := [] }

instance : EmptyCollection PermissionSet := ⟨empty⟩

instance : Inhabited PermissionSet := ⟨empty⟩

instance : Membership String PermissionSet := ⟨fun set x => x ∈ set.toList⟩

/-- Put a text where it belongs among texts in order, unless it is there. -/
def place (x : String) : List String → List String
  | [] => [x]
  | y :: ys => if x < y then x :: y :: ys else if x = y then y :: ys else y :: place x ys

theorem mem_place {x z : String} {ys : List String} : z ∈ place x ys ↔ z = x ∨ z ∈ ys := by
  induction ys with
  | nil => simp [place]
  | cons y ys ih =>
    simp only [place]
    split
    · simp
    · split
      · rename_i heq
        subst heq
        simp
      · simp only [List.mem_cons, ih]
        constructor
        · rintro (h | h | h) <;> simp [h]
        · rintro (h | h | h) <;> simp [h]

private theorem lt_of_not_lt_of_ne {x y : String} (hlt : ¬x < y) (hne : x ≠ y) : y < x := by
  rcases String.le_total x y with h | h
  · exact absurd (String.le_antisymm h (String.not_lt.1 hlt)) hne
  · exact Decidable.byContradiction fun hn => hne (String.le_antisymm (String.not_lt.1 hn) h)

theorem place_sorted {x : String} {ys : List String} (h : ys.Pairwise (· < ·)) :
    (place x ys).Pairwise (· < ·) := by
  induction ys with
  | nil => simp [place]
  | cons y ys ih =>
    have hy := List.pairwise_cons.1 h
    simp only [place]
    split
    · rename_i hlt
      refine List.pairwise_cons.2 ⟨fun z hz => ?_, h⟩
      rcases List.mem_cons.1 hz with rfl | hz
      · exact hlt
      · exact String.lt_trans hlt (hy.1 z hz)
    · split
      · exact h
      · rename_i hlt hne
        refine List.pairwise_cons.2 ⟨fun z hz => ?_, ih hy.2⟩
        rcases mem_place.1 hz with rfl | hz
        · exact lt_of_not_lt_of_ne hlt hne
        · exact hy.1 z hz

/-- The set with one more member. -/
def insert (x : String) (set : PermissionSet) : PermissionSet :=
  ⟨place x set.toList, place_sorted set.sorted⟩

@[simp] theorem mem_insert {x z : String} {set : PermissionSet} :
    z ∈ set.insert x ↔ z = x ∨ z ∈ set := mem_place

/-- The set with all these members besides its own. -/
def insertAll (set : PermissionSet) (xs : List String) : PermissionSet :=
  xs.foldl (fun set x => set.insert x) set

theorem mem_insertAll {xs : List String} {z : String} {set : PermissionSet} :
    z ∈ set.insertAll xs ↔ z ∈ set ∨ z ∈ xs := by
  induction xs generalizing set with
  | nil => simp [insertAll]
  | cons x xs ih =>
    have h : z ∈ (set.insert x).insertAll xs ↔ z ∈ set.insert x ∨ z ∈ xs := ih
    simp only [insertAll, List.foldl_cons] at h ⊢
    rw [h, mem_insert, List.mem_cons]
    constructor
    · rintro ((h | h) | h) <;> simp [h]
    · rintro (h | h | h) <;> simp [h]

/-- The set of the texts in a list. -/
def ofList (xs : List String) : PermissionSet := empty.insertAll xs

theorem mem_ofList {xs : List String} {z : String} : z ∈ ofList xs ↔ z ∈ xs := by
  rw [ofList, mem_insertAll]
  exact or_iff_right fun h => by cases h

/-- The members for which the test holds. -/
def filter (p : String → Bool) (set : PermissionSet) : PermissionSet :=
  ⟨set.toList.filter p, set.sorted.filter p⟩

/-- The members of either set. -/
def union (a b : PermissionSet) : PermissionSet := a.insertAll b.toList

/-- The members of the first set that are not in the second. -/
def subtract (a b : PermissionSet) : PermissionSet := a.filter fun x => !b.toList.contains x

/-- The members of both sets. -/
def intersect (a b : PermissionSet) : PermissionSet := a.filter fun x => b.toList.contains x

/-- The first member, in order, that covers the code. -/
def grantFor (set : PermissionSet) (code : String) : Option String :=
  firstCovering set.toList code

end PermissionSet

end AccessControl
