namespace ImageIntake

variable {β : Type}

namespace Entries

def Ordered (entries : List (String × β)) : Prop :=
  entries.Pairwise fun a b => a.1 < b.1

def find? (key : String) : List (String × β) → Option β
  | [] => none
  | (k, v) :: rest => if k = key then some v else find? key rest

def insert (key : String) (value : β) : List (String × β) → List (String × β)
  | [] => [(key, value)]
  | (k, v) :: rest =>
      if key < k then (key, value) :: (k, v) :: rest
      else if k = key then (key, value) :: rest
      else (k, v) :: insert key value rest

def erase (key : String) (entries : List (String × β)) : List (String × β) :=
  entries.filter fun entry => entry.1 != key

theorem mem_insert {key : String} {value : β} {entry : String × β}
    {entries : List (String × β)} (h : entry ∈ insert key value entries) :
    entry = (key, value) ∨ entry ∈ entries := by
  induction entries with
  | nil => simpa [insert] using h
  | cons head rest ih =>
      obtain ⟨k, v⟩ := head
      simp only [insert] at h
      split at h
      · simpa using h
      · split at h
        · rcases List.mem_cons.1 h with h | h
          · exact .inl h
          · exact .inr (List.mem_cons_of_mem _ h)
        · rcases List.mem_cons.1 h with h | h
          · exact .inr (h ▸ List.mem_cons_self)
          · exact (ih h).imp_right (List.mem_cons_of_mem _)

theorem ordered_insert {key : String} {value : β} {entries : List (String × β)}
    (h : Ordered entries) : Ordered (insert key value entries) := by
  induction entries with
  | nil => exact List.pairwise_singleton _ _
  | cons head rest ih =>
      obtain ⟨k, v⟩ := head
      obtain ⟨hk, hrest⟩ := List.pairwise_cons.1 h
      simp only [insert]
      split
      · next hlt =>
          refine List.pairwise_cons.2 ⟨fun entry hentry => ?_, h⟩
          rcases List.mem_cons.1 hentry with rfl | hentry
          · exact hlt
          · exact String.lt_trans hlt (hk entry hentry)
      · split
        · next heq => exact List.pairwise_cons.2 ⟨heq ▸ hk, hrest⟩
        · next hnlt hne =>
            refine List.pairwise_cons.2 ⟨fun entry hentry => ?_, ih hrest⟩
            rcases mem_insert hentry with rfl | hentry
            · rcases Decidable.em (k < key) with hlt | hge
              · exact hlt
              · exact absurd (String.le_antisymm (String.not_lt.1 hnlt) (String.not_lt.1 hge)) hne
            · exact hk entry hentry

theorem ordered_erase {key : String} {entries : List (String × β)} (h : Ordered entries) :
    Ordered (erase key entries) :=
  List.Pairwise.sublist List.filter_sublist h

theorem find?_insert (key other : String) (value : β) (entries : List (String × β)) :
    find? other (insert key value entries) = if key = other then some value
      else find? other entries := by
  induction entries with
  | nil => simp [insert, find?]
  | cons head rest ih =>
      obtain ⟨k, v⟩ := head
      simp only [insert]
      split
      · simp [find?]
      · split
        · next heq => subst heq; by_cases h : k = other <;> simp [find?, h]
        · next hne =>
            by_cases h : k = other
            · subst h; simp [find?, Ne.symm hne]
            · simp [find?, h, ih]

theorem find?_erase (key other : String) (entries : List (String × β)) :
    find? other (erase key entries) = if key = other then none else find? other entries := by
  induction entries with
  | nil => simp [erase, find?]
  | cons head rest ih =>
      obtain ⟨k, v⟩ := head
      by_cases hk : k = key
      · subst hk
        have : erase k ((k, v) :: rest) = erase k rest := by simp [erase]
        rw [this, ih]
        by_cases h : k = other <;> simp [find?, h]
      · have : erase key ((k, v) :: rest) = (k, v) :: erase key rest := by simp [erase, hk]
        rw [this]
        by_cases h : k = other
        · subst h; simp [find?, Ne.symm hk]
        · simp [find?, h, ih]

theorem find?_eq_none_iff {key : String} {entries : List (String × β)} :
    find? key entries = none ↔ key ∉ entries.map (·.1) := by
  induction entries with
  | nil => simp [find?]
  | cons head rest ih =>
      obtain ⟨k, v⟩ := head
      by_cases h : k = key
      · simp [find?, h]
      · simp [find?, h, ih, Ne.symm h]

end Entries

structure Shelf (β : Type) where
  entries : List (String × β)
  ordered : Entries.Ordered entries

namespace Shelf

def empty : Shelf β := ⟨[], List.Pairwise.nil⟩

instance : Inhabited (Shelf β) := ⟨empty⟩

def find? (shelf : Shelf β) (key : String) : Option β :=
  Entries.find? key shelf.entries

def insert (shelf : Shelf β) (key : String) (value : β) : Shelf β :=
  ⟨Entries.insert key value shelf.entries, Entries.ordered_insert shelf.ordered⟩

def erase (shelf : Shelf β) (key : String) : Shelf β :=
  ⟨Entries.erase key shelf.entries, Entries.ordered_erase shelf.ordered⟩

def keys (shelf : Shelf β) : List String :=
  shelf.entries.map (·.1)

@[simp] theorem find?_empty (key : String) : (empty : Shelf β).find? key = none := rfl

theorem find?_insert (shelf : Shelf β) (key other : String) (value : β) :
    (shelf.insert key value).find? other = if key = other then some value
      else shelf.find? other :=
  Entries.find?_insert key other value shelf.entries

theorem find?_erase (shelf : Shelf β) (key other : String) :
    (shelf.erase key).find? other = if key = other then none else shelf.find? other :=
  Entries.find?_erase key other shelf.entries

theorem mem_keys_iff {shelf : Shelf β} {key : String} :
    key ∈ shelf.keys ↔ (shelf.find? key).isSome := by
  rw [Option.isSome_iff_ne_none, Ne, find?, Entries.find?_eq_none_iff, Decidable.not_not]
  rfl

theorem pairwise_keys (shelf : Shelf β) : shelf.keys.Pairwise (· < ·) := by
  rw [keys, List.pairwise_map]
  exact shelf.ordered

end Shelf

end ImageIntake
