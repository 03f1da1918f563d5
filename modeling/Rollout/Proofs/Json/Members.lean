import Mathlib.Data.String.Basic
import Rollout.Json.Members
import Rollout.Proofs.Lookup

/-!
Contract: the members of an object and the order of their names.

Owns:
- that an insertion keeps the order and brings in nothing but the inserted member;
- that ordering members gives ordered ones, and changes nothing about ordered ones;
- that no name stands twice among ordered members, and that they are determined by what is
  found under each name.

Does not own: what is found under a name after an insertion.
-/

namespace Rollout.Json

variable {α : Type} {members : List (String × α)} {member : String × α} {name : String}
  {value : α}

/-! ## Insertion -/

theorem mem_insertMember
    (inserted : member ∈ insertMember name value members) :
    member = (name, value) ∨ member ∈ members := by
  induction members with
  | nil => exact .inl (List.mem_singleton.mp inserted)
  | cons first rest inductionHypothesis =>
      obtain ⟨firstName, held⟩ := first
      rw [insertMember] at inserted
      split at inserted
      · rcases List.mem_cons.mp inserted with same | inRest
        · exact .inl same
        · exact .inr (List.mem_cons_of_mem _ inRest)
      · split at inserted
        · exact List.mem_cons.mp inserted
        · rcases List.mem_cons.mp inserted with same | later
          · exact .inr (same ▸ List.mem_cons_self)
          · exact (inductionHypothesis later).imp_right (List.mem_cons_of_mem _)

private theorem Ordered.tail
    (ordered : Ordered (member :: members)) :
    Ordered members :=
  (List.pairwise_cons.mp ordered).2

theorem ordered_insertMember
    (ordered : Ordered members)
    (name : String)
    (value : α) :
    Ordered (insertMember name value members) := by
  induction members with
  | nil => exact List.pairwise_singleton _ _
  | cons first rest inductionHypothesis =>
      obtain ⟨firstName, held⟩ := first
      have beforeRest : ∀ later ∈ rest, firstName < later.1 :=
        (List.pairwise_cons.mp ordered).1
      rw [insertMember]
      split
      · rename_i same
        subst same
        exact List.pairwise_cons.mpr ⟨beforeRest, ordered.tail⟩
      · rename_i different
        split
        · rename_i before
          refine List.pairwise_cons.mpr ⟨?_, ordered⟩
          intro later member
          rcases List.mem_cons.mp member with rfl | inRest
          · exact before
          · exact before.trans (beforeRest later inRest)
        · rename_i notBefore
          have after : firstName < name :=
            lt_of_le_of_ne (not_lt.mp notBefore) (Ne.symm different)
          refine List.pairwise_cons.mpr ⟨?_, inductionHypothesis ordered.tail⟩
          intro later member
          rcases mem_insertMember member with rfl | inRest
          · exact after
          · exact beforeRest later inRest

/-- A member whose name comes after all others goes to the end. -/
theorem insertMember_of_last
    (last : ∀ member ∈ members, member.1 < name) :
    insertMember name value members = members ++ [(name, value)] := by
  induction members with
  | nil => rfl
  | cons first rest inductionHypothesis =>
      obtain ⟨firstName, held⟩ := first
      have before : firstName < name := last (firstName, held) List.mem_cons_self
      have inRest := inductionHypothesis
        fun member isLater => last member (List.mem_cons_of_mem _ isLater)
      rw [insertMember, if_neg before.ne', if_neg before.asymm, inRest]
      rfl

/-! ## Ordering -/

theorem ordered_orderMembers (members : List (String × α)) :
    Ordered (orderMembers members) := by
  unfold orderMembers
  have fromOrdered : ∀ placed : List (String × α), Ordered placed →
      Ordered (members.foldl (fun placed member => insertMember member.1 member.2 placed)
        placed) := by
    induction members with
    | nil => exact fun _ ordered => ordered
    | cons first rest inductionHypothesis =>
        exact fun placed ordered => inductionHypothesis _ (ordered_insertMember ordered _ _)
  exact fromOrdered [] .nil

theorem mem_orderMembers (inOrder : member ∈ orderMembers members) : member ∈ members := by
  unfold orderMembers at inOrder
  have fromPlaced : ∀ placed : List (String × α),
      member ∈ members.foldl (fun placed member => insertMember member.1 member.2 placed)
        placed →
      member ∈ placed ∨ member ∈ members := by
    clear inOrder
    induction members with
    | nil => exact fun _ placed => .inl placed
    | cons first rest inductionHypothesis =>
        intro placed found
        rcases inductionHypothesis _ found with inserted | inRest
        · rcases mem_insertMember inserted with same | earlier
          · exact .inr (same ▸ List.mem_cons_self)
          · exact .inl earlier
        · exact .inr (List.mem_cons_of_mem _ inRest)
  exact (fromPlaced [] inOrder).resolve_left List.not_mem_nil

/-- Ordered members stay as they are. -/
theorem Ordered.orderMembers_eq (ordered : Ordered members) :
    orderMembers members = members := by
  unfold orderMembers
  have afterPlaced : ∀ placed : List (String × α), Ordered (placed ++ members) →
      members.foldl (fun placed member => insertMember member.1 member.2 placed) placed =
        placed ++ members := by
    clear ordered
    induction members with
    | nil => simp
    | cons first rest inductionHypothesis =>
        intro placed ordered
        have last : ∀ member ∈ placed, member.1 < first.1 := by
          intro member isPlaced
          exact (List.pairwise_append.mp ordered).2.2 member isPlaced first List.mem_cons_self
        have split : placed ++ first :: rest = placed ++ [first] ++ rest := by simp
        rw [List.foldl_cons, insertMember_of_last last, inductionHypothesis _ (split ▸ ordered),
          split]
  exact afterPlaced [] ordered

/-! ## Names -/

theorem Ordered.names_nodup (ordered : Ordered members) :
    (members.map Prod.fst).Nodup :=
  List.pairwise_map.mpr (ordered.imp LT.lt.ne)

/-- Ordered members are determined by what is found under each name. -/
theorem Ordered.ext
    {others : List (String × α)}
    (ordered : Ordered members)
    (othersOrdered : Ordered others)
    (same : ∀ name, members.lookup name = others.lookup name) :
    members = others := by
  have sameMembers : ∀ member, member ∈ members ↔ member ∈ others := by
    intro (name, value)
    constructor
    · intro isMember
      apply mem_of_lookup
      rw [← same name]
      exact lookup_of_mem ordered.names_nodup isMember
    · intro isOther
      apply mem_of_lookup
      rw [same name]
      exact lookup_of_mem othersOrdered.names_nodup isOther
  have permutation : members.Perm others :=
    (List.perm_ext_iff_of_nodup ordered.names_nodup.of_map
      othersOrdered.names_nodup.of_map).mpr sameMembers
  apply permutation.eq_of_pairwise _ ordered othersOrdered
  intro left right _ _ before after
  exact absurd after before.asymm

end Rollout.Json
