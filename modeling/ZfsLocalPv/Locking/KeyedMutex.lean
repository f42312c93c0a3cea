import Mathlib.Data.Finset.Basic
import Mathlib.Data.Fintype.Card
import Mathlib.Data.Set.Finite.Basic
import Mathlib.Logic.Relation
import Mathlib.Order.WellFounded

/-!
# Keyed mutexes

A keyed mutex keeps a set of taken keys for its clients. It is sound if the set holds the keys of
the clients, each once. Taking a free key and giving back one's own key keep it sound.

Clients that wait for each other's keys in a circle never get on. Among finitely many keys a
circle is there as soon as every awaited key leads to a further one.
-/

namespace ZfsLocalPv.Locking

variable {T κ : Type}

/-- The keys of each client and the set of taken keys agree. -/
structure Sound (held : T → List κ) (taken : Finset κ) : Prop where
  mem_taken_iff : ∀ key, key ∈ taken ↔ ∃ client, key ∈ held client
  exclusive : ∀ key one two, key ∈ held one → key ∈ held two → one = two
  nodup : ∀ client, (held client).Nodup

/-- No keys, no clients. -/
theorem sound_empty : Sound (fun _ : T => ([] : List κ)) ∅ where
  mem_taken_iff := by simp
  exclusive := by simp
  nodup := by simp

variable [DecidableEq T] [DecidableEq κ]

/-- What a step of a client may do to the keys. -/
inductive Move (client : T) (held : T → List κ) (taken : Finset κ) :
    (T → List κ) → Finset κ → Prop
  | stay : Move client held taken held taken
  | acquire (key : κ) (free : key ∉ taken) :
      Move client held taken (Function.update held client (held client ++ [key]))
        (insert key taken)
  | release (key : κ) (rest : List κ) (holds : held client = key :: rest) :
      Move client held taken (Function.update held client rest) (taken.erase key)

variable {client : T} {held next : T → List κ} {taken after : Finset κ}

theorem Sound.acquire (sound : Sound held taken) {key : κ} (free : key ∉ taken) :
    Sound (Function.update held client (held client ++ [key])) (insert key taken) := by
  have fresh (other : T) : key ∉ held other :=
    fun holds => free ((sound.mem_taken_iff key).mpr ⟨other, holds⟩)
  have mem (other : T) (name : κ) :
      name ∈ Function.update held client (held client ++ [key]) other ↔
        name ∈ held other ∨ other = client ∧ name = key := by
    by_cases same : other = client
    · subst same
      simp
    · simp [same]
  constructor
  · intro name
    simp only [mem, Finset.mem_insert, sound.mem_taken_iff]
    constructor
    · rintro (rfl | ⟨other, holds⟩)
      · exact ⟨client, .inr ⟨rfl, rfl⟩⟩
      · exact ⟨other, .inl holds⟩
    · rintro ⟨other, holds | ⟨_, rfl⟩⟩
      · exact .inr ⟨other, holds⟩
      · exact .inl rfl
  · intro name one two first second
    rw [mem] at first second
    rcases first with first | ⟨isOne, rfl⟩
    · rcases second with second | ⟨_, rfl⟩
      · exact sound.exclusive name one two first second
      · exact absurd first (fresh one)
    · rcases second with second | ⟨isTwo, _⟩
      · exact absurd second (fresh two)
      · exact isOne.trans isTwo.symm
  · intro other
    by_cases same : other = client
    · subst same
      rw [Function.update_self, List.nodup_append]
      refine ⟨sound.nodup other, List.nodup_singleton key, ?_⟩
      rintro name holds _ isKey rfl
      cases List.mem_singleton.mp isKey
      exact fresh other holds
    · rw [Function.update_of_ne same]
      exact sound.nodup other

theorem Sound.release (sound : Sound held taken) {key : κ} {rest : List κ}
    (holds : held client = key :: rest) :
    Sound (Function.update held client rest) (taken.erase key) := by
  have distinct := sound.nodup client
  rw [holds, List.nodup_cons] at distinct
  have own : key ∈ held client := by simp [holds]
  have mem (other : T) (name : κ) :
      name ∈ Function.update held client rest other ↔ name ∈ held other ∧ name ≠ key := by
    by_cases same : other = client
    · subst same
      rw [Function.update_self, holds, List.mem_cons]
      constructor
      · intro kept
        exact ⟨.inr kept, fun isKey => distinct.1 (isKey ▸ kept)⟩
      · rintro ⟨isKey | kept, differs⟩
        · exact absurd isKey differs
        · exact kept
    · rw [Function.update_of_ne same]
      constructor
      · intro kept
        exact ⟨kept, fun isKey => same (sound.exclusive key other client (isKey ▸ kept) own)⟩
      · exact And.left
  constructor
  · intro name
    simp only [mem, Finset.mem_erase, sound.mem_taken_iff, exists_and_right]
    exact and_comm
  · intro name one two first second
    exact sound.exclusive name one two ((mem one name).mp first).1 ((mem two name).mp second).1
  · intro other
    by_cases same : other = client
    · subst same
      rw [Function.update_self]
      exact distinct.2
    · rw [Function.update_of_ne same]
      exact sound.nodup other

/-- Every step keeps the mutex sound. -/
theorem Sound.move (sound : Sound held taken) (move : Move client held taken next after) :
    Sound next after := by
  cases move with
  | stay => exact sound
  | acquire key free => exact sound.acquire free
  | release key rest holds => exact sound.release holds

/-! ## Owners -/

/-- The owner of each key, if it is taken. -/
def Owners (held : T → List κ) (owner : κ → Option T) : Prop :=
  ∀ key client, owner key = some client ↔ key ∈ held client

/-- A step leaves the owners as they are, gives a free key to the client or frees one of
its keys. -/
theorem Owners.move {owner : κ → Option T} (sound : Sound held taken) (owners : Owners held owner)
    (move : Move client held taken next after) :
    Owners next owner ∨
    (∃ key, owner key = none ∧ Owners next (Function.update owner key (some client))) ∨
    ∃ key, owner key = some client ∧ Owners next (Function.update owner key none) := by
  have still := sound.move move
  cases move with
  | stay => exact .inl owners
  | acquire key free =>
      have unowned : owner key = none := by
        by_contra owned
        obtain ⟨other, isOwner⟩ := Option.ne_none_iff_exists'.mp owned
        exact free ((sound.mem_taken_iff key).mpr ⟨other, (owners key other).mp isOwner⟩)
      refine .inr (.inl ⟨key, unowned, fun name other => ?_⟩)
      by_cases isKey : name = key
      · subst isKey
        have holds : name ∈ Function.update held client (held client ++ [name]) client := by
          simp
        rw [Function.update_self, Option.some.injEq]
        constructor
        · rintro rfl
          exact holds
        · exact still.exclusive name client other holds
      · rw [Function.update_of_ne isKey, owners]
        by_cases same : other = client
        · subst same
          simp [isKey]
        · simp [same]
  | release key rest holds =>
      have own : owner key = some client := (owners key client).mpr (by simp [holds])
      refine .inr (.inr ⟨key, own, fun name other => ?_⟩)
      have distinct := sound.nodup client
      rw [holds, List.nodup_cons] at distinct
      by_cases isKey : name = key
      · subst isKey
        rw [Function.update_self]
        refine iff_of_false nofun fun held' => ?_
        by_cases same : other = client
        · subst same
          rw [Function.update_self] at held'
          exact distinct.1 held'
        · rw [Function.update_of_ne same] at held'
          exact same (Option.some.inj (((owners name other).mpr held').symm.trans own))
      · rw [Function.update_of_ne isKey, owners]
        by_cases same : other = client
        · subst same
          simp [holds, isKey]
        · simp [same]

/-! ## Circles -/

/-- If every member of a finite nonempty set leads to a member, there is a circle. -/
theorem exists_circle {α : Type} {leads : α → α → Prop} {members : Set α} (finite : members.Finite)
    (nonempty : members.Nonempty)
    (goesOn : ∀ one ∈ members, ∃ two ∈ members, leads one two) :
    ∃ one, Relation.TransGen leads one one := by
  by_contra acyclic
  -- without a circle the members are well-founded, and the last one leads nowhere
  let after : members → members → Prop := fun two one => Relation.TransGen leads one.1 two.1
  have trans : IsTrans members after := ⟨fun _ _ _ first second => second.trans first⟩
  have irrefl : Std.Irrefl after := ⟨fun one circle => acyclic ⟨one.1, circle⟩⟩
  have := finite.to_subtype
  have wellFounded : WellFounded after := Finite.wellFounded_of_trans_of_irrefl after
  obtain ⟨first, isFirst⟩ := nonempty
  obtain ⟨last, _, isLast⟩ := wellFounded.has_min Set.univ ⟨⟨first, isFirst⟩, trivial⟩
  obtain ⟨next, isNext, leadsOn⟩ := goesOn last.1 last.2
  exact isLast ⟨next, isNext⟩ trivial (.single leadsOn)

end ZfsLocalPv.Locking
