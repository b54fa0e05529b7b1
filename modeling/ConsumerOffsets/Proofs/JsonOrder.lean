/-
# The order of members

`Json.sorted` puts the members of every object in the ascending order of their names, and does nothing
else (`Json.rearranges_sorted`).  Where no object has a name twice, the result has each object in
strictly ascending order (`Json.Distinct.ascending_sorted`), and then the order in which its members
stood before is all that was lost (`Json.sortedMembers_eq_iff`).
-/
import Mathlib.Data.String.Basic
import ConsumerOffsets.Json

namespace ConsumerOffsets.Json

/-! ## 1. The members of one object -/

variable {members members' : List (String × Json)}

/-- Each name is less than all behind it. -/
def InOrder (members : List (String × Json)) : Prop := members.Pairwise fun a b => a.1 < b.1

theorem perm_insertMember (member : String × Json) : ∀ members : List (String × Json),
    (insertMember member members).Perm (member :: members)
  | [] => .refl _
  | first :: rest => by
    unfold insertMember
    split
    · exact ((perm_insertMember member rest).cons first).trans (.swap member first rest)
    · exact .refl _

/-- A new name is put where it belongs. -/
theorem inOrder_insertMember {member : String × Json} : ∀ {members : List (String × Json)},
    InOrder members → (∀ other ∈ members, other.1 ≠ member.1) →
      InOrder (insertMember member members)
  | [], _, _ => List.pairwise_singleton _ _
  | first :: rest, h, hnew => by
    obtain ⟨hfirst, hrest⟩ := List.pairwise_cons.mp h
    unfold insertMember
    split
    · next hlt =>
      have hinserted := inOrder_insertMember hrest fun other hother =>
        hnew other (List.mem_cons_of_mem _ hother)
      refine List.pairwise_cons.mpr ⟨fun other hother => ?_, hinserted⟩
      rcases List.mem_cons.mp ((perm_insertMember member rest).mem_iff.mp hother) with rfl | hother
      · exact hlt
      · exact hfirst other hother
    · next hnlt =>
      have hlt : member.1 < first.1 :=
        lt_of_le_of_ne (le_of_not_gt hnlt) (hnew first List.mem_cons_self).symm
      refine List.pairwise_cons.mpr ⟨fun other hother => ?_, h⟩
      rcases List.mem_cons.mp hother with rfl | hother
      · exact hlt
      · exact hlt.trans (hfirst other hother)

/-- The member with its value sorted. -/
def sortedMember (member : String × Json) : String × Json := (member.1, member.2.sorted)

theorem perm_sortedMembers : ∀ members : List (String × Json),
    (sortedMembers members).Perm (members.map sortedMember)
  | [] => .refl _
  | (name, value) :: members =>
    (perm_insertMember (name, value.sorted) (sortedMembers members)).trans
      ((perm_sortedMembers members).cons _)

theorem map_fst_map_sortedMember (members : List (String × Json)) :
    (members.map sortedMember).map Prod.fst = members.map Prod.fst := by
  rw [List.map_map]
  rfl

/-- Different names come out in order. -/
theorem inOrder_sortedMembers : ∀ {members : List (String × Json)},
    (members.map Prod.fst).Nodup → InOrder (sortedMembers members)
  | [], _ => List.Pairwise.nil
  | (name, value) :: members, h => by
    obtain ⟨hnew, hmembers⟩ := List.nodup_cons.mp h
    refine inOrder_insertMember (inOrder_sortedMembers hmembers) fun other hother => ?_
    rintro rfl
    have hnames := ((perm_sortedMembers members).map Prod.fst).mem_iff.mp (List.mem_map_of_mem hother)
    rw [map_fst_map_sortedMember] at hnames
    exact hnew hnames

/-- Members with different names come out equal if they are the same in another order, and only
then. -/
theorem sortedMembers_eq_iff (hnames : (members.map Prod.fst).Nodup) :
    sortedMembers members = sortedMembers members'
      ↔ (members.map sortedMember).Perm (members'.map sortedMember) := by
  constructor
  · intro heq
    exact (perm_sortedMembers members).symm.trans (heq ▸ perm_sortedMembers members')
  · intro hperm
    have hnames' : (members'.map Prod.fst).Nodup := by
      have hfst := hperm.map Prod.fst
      rw [map_fst_map_sortedMember, map_fst_map_sortedMember] at hfst
      exact hfst.nodup_iff.mp hnames
    have hsorted : (sortedMembers members).Perm (sortedMembers members') :=
      ((perm_sortedMembers members).trans hperm).trans (perm_sortedMembers members').symm
    refine hsorted.eq_of_pairwise (fun a b _ _ hab hba => ?_) (inOrder_sortedMembers hnames)
      (inOrder_sortedMembers hnames')
    exact absurd hab hba.asymm

/-! ## 2. All levels -/

/-- In every object the names are in strictly ascending order. -/
inductive Ascending : Json → Prop where
  | null : Ascending null
  | bool (b : Bool) : Ascending (bool b)
  | int (n : Int) : Ascending (int n)
  | str (s : String) : Ascending (str s)
  | arr {items : List Json} (hitems : ∀ item ∈ items, Ascending item) : Ascending (arr items)
  | obj {members : List (String × Json)} (hnames : InOrder members)
      (hmembers : ∀ member ∈ members, Ascending member.2) : Ascending (obj members)

/-- No object has a name twice. -/
inductive Distinct : Json → Prop where
  | null : Distinct null
  | bool (b : Bool) : Distinct (bool b)
  | int (n : Int) : Distinct (int n)
  | str (s : String) : Distinct (str s)
  | arr {items : List Json} (hitems : ∀ item ∈ items, Distinct item) : Distinct (arr items)
  | obj {members : List (String × Json)} (hnames : (members.map Prod.fst).Nodup)
      (hmembers : ∀ member ∈ members, Distinct member.2) : Distinct (obj members)

mutual

/-- The same value, but for the order of the members of objects. -/
inductive Rearranges : Json → Json → Prop where
  | null : Rearranges null null
  | bool (b : Bool) : Rearranges (bool b) (bool b)
  | int (n : Int) : Rearranges (int n) (int n)
  | str (s : String) : Rearranges (str s) (str s)
  | arr {items items' : List Json} (hitems : RearrangesItems items items') :
      Rearranges (arr items) (arr items')
  | obj {members between members' : List (String × Json)}
      (hmembers : RearrangesMembers members between) (hperm : between.Perm members') :
      Rearranges (obj members) (obj members')

/-- Element by element. -/
inductive RearrangesItems : List Json → List Json → Prop where
  | nil : RearrangesItems [] []
  | cons {item item' : Json} {items items' : List Json} (hitem : Rearranges item item')
      (hitems : RearrangesItems items items') : RearrangesItems (item :: items) (item' :: items')

/-- Member by member, each under its name. -/
inductive RearrangesMembers : List (String × Json) → List (String × Json) → Prop where
  | nil : RearrangesMembers [] []
  | cons (name : String) {value value' : Json} {members members' : List (String × Json)}
      (hvalue : Rearranges value value') (hmembers : RearrangesMembers members members') :
      RearrangesMembers ((name, value) :: members) ((name, value') :: members')

end

mutual

/-- Nothing but the order of members changes. -/
theorem rearranges_sorted : ∀ j : Json, Rearranges j j.sorted
  | null => .null
  | bool b => .bool b
  | int n => .int n
  | str s => .str s
  | arr items => .arr (rearrangesItems_sortedItems items)
  | obj members =>
    .obj (rearrangesMembers_map_sortedMember members) (perm_sortedMembers members).symm

theorem rearrangesItems_sortedItems : ∀ items : List Json,
    RearrangesItems items (sortedItems items)
  | [] => .nil
  | item :: items => .cons (rearranges_sorted item) (rearrangesItems_sortedItems items)

theorem rearrangesMembers_map_sortedMember : ∀ members : List (String × Json),
    RearrangesMembers members (members.map sortedMember)
  | [] => .nil
  | (name, value) :: members =>
    .cons name (rearranges_sorted value) (rearrangesMembers_map_sortedMember members)

end

theorem sortedItems_eq_map : ∀ items : List Json, sortedItems items = items.map sorted
  | [] => rfl
  | item :: items => congrArg (item.sorted :: ·) (sortedItems_eq_map items)

/-- Where names are different, they come out in strictly ascending order. -/
theorem Distinct.ascending_sorted {j : Json} (h : Distinct j) : Ascending j.sorted := by
  induction h with
  | null => exact .null
  | bool b => exact .bool b
  | int n => exact .int n
  | str s => exact .str s
  | arr _ ih =>
    refine .arr fun item hitem => ?_
    rw [sortedItems_eq_map] at hitem
    obtain ⟨item, hmem, rfl⟩ := List.mem_map.mp hitem
    exact ih item hmem
  | obj hnames _ ih =>
    refine .obj (inOrder_sortedMembers hnames) fun member hmember => ?_
    obtain ⟨member, hmem, rfl⟩ := List.mem_map.mp ((perm_sortedMembers _).mem_iff.mp hmember)
    exact ih member hmem

end ConsumerOffsets.Json
