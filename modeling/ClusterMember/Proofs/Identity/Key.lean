import ClusterMember.Identity.Collection
import ClusterMember.Proofs.Identity.Grammar
import ClusterMember.Proofs.Identity.Place

/-!
# Texts as keys of identities

The text of an identity says as much as comparisons and hashes look at, so that a set of identities
is a set of texts.
-/

namespace ClusterMember
namespace Identity

theorem canonical_eq_iff_key_eq (a b : Identity) :
    a.canonical = b.canonical ↔ a.key = b.key := by
  constructor
  · intro same
    have read_eq := congrArg ofString same
    rw [ofString_canonical, ofString_canonical] at read_eq
    have same_key := congrArg key (Except.ok.inj read_eq)
    exact same_key
  · intro same
    simp only [key, Prod.mk.injEq] at same
    obtain ⟨host_eq, port_eq, startTime_eq⟩ := same
    rw [canonical, canonical, hostAndPort, hostAndPort, host_eq, port_eq, startTime_eq]

theorem canonical_eq_iff_beq (a b : Identity) : a.canonical = b.canonical ↔ (a == b) = true :=
  (canonical_eq_iff_key_eq a b).trans (beq_iff_key_eq a b).symm

/-- What hashes can look at all of what distinguishes identities, and at nothing else. -/
theorem beq_iff_feed_eq (a b : Identity) :
    (a == b) = true ↔
      ∀ (σ : Type) (hasher : Hasher σ) (state : σ), a.feed hasher state = b.feed hasher state := by
  rw [beq_iff_key_eq]
  constructor
  · intro same σ hasher state
    exact feed_eq_of_key_eq same hasher state
  · intro same
    -- A hasher that keeps what it is given ends as the key.
    let keeping : Hasher (String × UInt16 × UInt64) :=
      { text := fun state host => (host, state.2)
        word16 := fun state port => (state.1, port, state.2.2)
        word64 := fun state startTime => (state.1, state.2.1, startTime) }
    exact same _ keeping ("", 0, 0)

/-! ## Sets -/

/-- The texts of the members of a set. -/
def texts (set : Std.HashSet Identity) : List String := set.toList.map canonical

theorem contains_iff_mem_texts (set : Std.HashSet Identity) (identity : Identity) :
    set.contains identity = true ↔ identity.canonical ∈ texts set := by
  rw [← Std.HashSet.contains_toList, List.contains_iff_exists_mem_beq, texts, List.mem_map]
  refine exists_congr fun member => and_congr_right fun _ => ?_
  rw [← canonical_eq_iff_beq]
  exact eq_comm

theorem nodup_texts (set : Std.HashSet Identity) : (texts set).Nodup := by
  rw [texts, List.Nodup, List.pairwise_map]
  refine Std.HashSet.distinct_toList.imp fun {one other} differ same => ?_
  rw [(canonical_eq_iff_beq one other).1 same] at differ
  cases differ

/-- A set that is given an identity has it as a new member, or stays as it is. -/
theorem toList_insert (set : Std.HashSet Identity) (identity : Identity) :
    (set.insert identity).toList.Perm
      (if set.contains identity then set.toList else identity :: set.toList) :=
  Std.HashSet.toList_insert_perm

theorem mem_texts_insert_iff (set : Std.HashSet Identity) (identity : Identity) (text : String) :
    text ∈ texts (set.insert identity) ↔ text = identity.canonical ∨ text ∈ texts set := by
  rw [texts, ((toList_insert set identity).map canonical).mem_iff]
  split
  next held =>
    have text_mem := (contains_iff_mem_texts set identity).1 held
    exact ⟨.inr, fun either => either.elim (fun eq => eq ▸ text_mem) fun mem => mem⟩
  next => exact List.mem_cons

theorem insertAll_cons (identity : Identity) (rest : List Identity)
    (set : Std.HashSet Identity) :
    insertAll (identity :: rest) set =
      ((insertAll rest (set.insert identity)).1,
        (!set.contains identity) :: (insertAll rest (set.insert identity)).2) := rfl

theorem mem_texts_insertAll_iff (identities : List Identity) (set : Std.HashSet Identity)
    (text : String) :
    text ∈ texts (insertAll identities set).1 ↔
      text ∈ texts set ∨ text ∈ identities.map canonical := by
  induction identities generalizing set with
  | nil => simp [insertAll]
  | cons identity rest induction =>
      rw [insertAll_cons, induction, mem_texts_insert_iff, List.map_cons, List.mem_cons, or_assoc,
        or_left_comm]

/-- An identity is new when neither a member nor an identity before it has its text. -/
theorem news_insertAll (identities : List Identity) (set : Std.HashSet Identity) (place : Nat) :
    (insertAll identities set).2[place]? = identities[place]?.map fun identity =>
      decide (identity.canonical ∉ texts set ∧
        identity.canonical ∉ (identities.take place).map canonical) := by
  induction identities generalizing set place with
  | nil => rfl
  | cons identity rest induction =>
      rw [insertAll_cons]
      cases place with
      | zero =>
          have new_iff := contains_iff_mem_texts set identity
          cases held : set.contains identity <;> rw [held] at new_iff <;> simp_all
      | succ place =>
          rw [List.getElem?_cons_succ, List.getElem?_cons_succ, induction]
          refine congrArg (Option.map · rest[place]?) (funext fun later => ?_)
          refine decide_eq_decide.2 ?_
          rw [mem_texts_insert_iff, List.take_succ_cons, List.map_cons, List.mem_cons, not_or,
            not_or, and_assoc, and_left_comm]

/-- The identities that are told to be new become members. -/
theorem toList_insertAll (identities : List Identity) (set : Std.HashSet Identity) :
    (insertAll identities set).1.toList.Perm
      (set.toList ++ ((identities.zip (insertAll identities set).2).filter (·.2)).map (·.1)) := by
  induction identities generalizing set with
  | nil => simp [insertAll]
  | cons identity rest induction =>
      rw [insertAll_cons, List.zip_cons_cons, List.filter_cons]
      have inserted := toList_insert set identity
      cases held : set.contains identity with
      | true =>
          rw [held] at inserted
          exact (induction (set.insert identity)).trans (inserted.append_right _)
      | false =>
          rw [held] at inserted
          refine (induction (set.insert identity)).trans ((inserted.append_right _).trans ?_)
          exact List.perm_middle.symm

/-- What a set keeps of identities that are put into it one after the other, and which of them it
tells to be new. -/
structure KeptByText (identities : List Identity) (kept : Std.HashSet Identity)
    (news : List Bool) : Prop where
  /-- No two members have the same text. -/
  nodup_texts : (kept.toList.map canonical).Nodup
  /-- There is a member for each text. -/
  mem_texts_iff : ∀ text, text ∈ kept.toList.map canonical ↔ text ∈ identities.map canonical
  /-- An identity is new when no identity before it has its text. -/
  news_eq : ∀ place : Nat, news[place]? = identities[place]?.map fun identity =>
    decide (identity.canonical ∉ (identities.take place).map canonical)
  /-- The members are the identities that were new. -/
  members_perm : kept.toList.Perm (((identities.zip news).filter (·.2)).map (·.1))

theorem kept_insertAll (identities : List Identity) :
    KeptByText identities (insertAll identities ∅).1 (insertAll identities ∅).2 where
  nodup_texts := nodup_texts _
  mem_texts_iff text := by
    have mem_iff := mem_texts_insertAll_iff identities ∅ text
    simpa [texts] using mem_iff
  news_eq place := by
    rw [news_insertAll]
    simp [texts]
  members_perm := by
    have perm := toList_insertAll identities ∅
    rwa [Std.HashSet.toList_empty, List.nil_append] at perm

/-- The text of an identity is its key: it reads back, tells apart what comparisons, hashes and sets
tell apart, and so does the text of host and port for places. -/
theorem canonical_isKey :
    (∀ identity : Identity, ∃ again, ofString identity.canonical = .ok again ∧
      (again == identity) = true ∧ again.host = identity.host ∧ again.port = identity.port ∧
      again.startTime = identity.startTime ∧ again.ip = none ∧
      again.canonical = identity.canonical) ∧
    (∀ a b : Identity, a.canonical = b.canonical ↔ (a == b) = true) ∧
    (∀ a b : Identity, a.hostAndPort = b.hostAndPort ↔ sameHostAndPort a b = true) ∧
    (∀ a b : Identity, (a == b) = true ↔
      ∀ (σ : Type) (hasher : Hasher σ) (state : σ), a.feed hasher state = b.feed hasher state) ∧
    ∀ identities : List Identity,
      KeptByText identities (insertAll identities ∅).1 (insertAll identities ∅).2 := by
  refine ⟨fun identity => ?_, canonical_eq_iff_beq, fun a b => ?_, beq_iff_feed_eq,
    kept_insertAll⟩
  · refine ⟨{ identity with ip := none }, ofString_canonical identity, ?_, rfl, rfl, rfl, rfl, rfl⟩
    rw [beq_iff_key_eq]
    rfl
  · rw [hostAndPort_eq_iff, sameHostAndPort_iff]

end Identity
end ClusterMember
