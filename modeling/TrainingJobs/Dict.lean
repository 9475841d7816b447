/-!
# Dictionaries with string keys

`Dict β` maps strings to values of `β`. Its entries are kept in increasing key order (by code
point) with no key twice, so two dictionaries are equal as soon as their entries are, and every
walk over one visits the keys in the same order.
-/

namespace TrainingJobs

universe u v

/-- Insert or replace the entry of `k` in a list ordered by key. -/
def insertEntry {β : Type u} (k : String) (x : β) : List (String × β) → List (String × β)
  | [] => [(k, x)]
  | (k', x') :: rest =>
    if k < k' then (k, x) :: (k', x') :: rest
    else if k = k' then (k, x) :: rest
    else (k', x') :: insertEntry k x rest

def KeysIncrease {β : Type u} (l : List (String × β)) : Prop :=
  l.Pairwise fun a b => a.1 < b.1

theorem mem_insertEntry {β : Type u} {k : String} {x : β} {a : String × β}
    {l : List (String × β)} (h : a ∈ insertEntry k x l) : a = (k, x) ∨ a ∈ l := by
  induction l with
  | nil => simpa [insertEntry] using h
  | cons hd tl ih =>
    obtain ⟨k', x'⟩ := hd
    rw [insertEntry] at h
    split at h
    · simpa using h
    · split at h
      · rcases List.mem_cons.1 h with h | h
        · exact .inl h
        · exact .inr (List.mem_cons_of_mem _ h)
      · rcases List.mem_cons.1 h with h | h
        · exact .inr (h ▸ List.mem_cons_self)
        · exact (ih h).imp id (List.mem_cons_of_mem _)

theorem name_lt_of_not_lt_of_ne {a b : String} (h : ¬a < b) (hne : a ≠ b) : b < a :=
  Decidable.byContradiction fun hc =>
    hne (String.le_antisymm (String.not_lt.1 hc) (String.not_lt.1 h))

theorem KeysIncrease.insertEntry {β : Type u} (k : String) (x : β) {l : List (String × β)}
    (h : KeysIncrease l) : KeysIncrease (insertEntry k x l) := by
  induction l with
  | nil => simp [TrainingJobs.insertEntry, KeysIncrease]
  | cons hd tl ih =>
    obtain ⟨k', x'⟩ := hd
    obtain ⟨hhd, htl⟩ := List.pairwise_cons.1 h
    rw [TrainingJobs.insertEntry]
    split
    next hlt =>
      refine List.pairwise_cons.2 ⟨fun a ha => ?_, h⟩
      rcases List.mem_cons.1 ha with rfl | ha
      · exact hlt
      · exact String.lt_trans hlt (hhd a ha)
    next hlt =>
      split
      next heq =>
        subst heq
        exact List.pairwise_cons.2 ⟨hhd, htl⟩
      next hne =>
        refine List.pairwise_cons.2 ⟨fun a ha => ?_, ih htl⟩
        rcases mem_insertEntry ha with rfl | ha
        · exact name_lt_of_not_lt_of_ne hlt hne
        · exact hhd a ha

/-- A dictionary from strings to `β`, its entries in increasing key order. -/
structure Dict (β : Type u) where
  entries : List (String × β)
  increasing : KeysIncrease entries

namespace Dict

variable {β : Type u} {γ : Type v}

theorem ext {d e : Dict β} (h : d.entries = e.entries) : d = e := by
  cases d; cases e; cases h; rfl

instance [DecidableEq β] : DecidableEq (Dict β) := fun d e =>
  if h : d.entries = e.entries then isTrue (ext h) else isFalse fun he => h (he ▸ rfl)

instance [Repr β] : Repr (Dict β) where
  reprPrec d n := reprPrec d.entries n

def empty : Dict β := ⟨[], List.Pairwise.nil⟩

instance : Inhabited (Dict β) := ⟨empty⟩

def insert (d : Dict β) (k : String) (x : β) : Dict β :=
  ⟨insertEntry k x d.entries, d.increasing.insertEntry k x⟩

def get? (d : Dict β) (k : String) : Option β :=
  (d.entries.find? fun e => e.1 == k).map (·.2)

def contains (d : Dict β) (k : String) : Bool := d.entries.any fun e => e.1 == k

def keys (d : Dict β) : List String := d.entries.map (·.1)

def values (d : Dict β) : List β := d.entries.map (·.2)

def size (d : Dict β) : Nat := d.entries.length

def isEmpty (d : Dict β) : Bool := d.entries.isEmpty

/-- Enter pairs one after the other; the last value of a key wins. -/
def insertAll (d : Dict β) (pairs : List (String × β)) : Dict β :=
  pairs.foldl (fun acc e => acc.insert e.1 e.2) d

/-- The dictionary of a list of pairs; the last value of a key wins. -/
def ofList (pairs : List (String × β)) : Dict β := empty.insertAll pairs

/-- All entries of both, those of `e` winning. -/
def override (d e : Dict β) : Dict β := d.insertAll e.entries

def erase (d : Dict β) (k : String) : Dict β :=
  ⟨d.entries.filter fun e => e.1 != k, d.increasing.filter _⟩

def mapValues (f : String → β → γ) (d : Dict β) : Dict γ :=
  ⟨d.entries.map fun e => (e.1, f e.1 e.2),
   List.pairwise_map.2 (d.increasing.imp fun h => h)⟩

@[simp] theorem entries_empty : (empty : Dict β).entries = [] := rfl

@[simp] theorem entries_insert (d : Dict β) (k : String) (x : β) :
    (d.insert k x).entries = insertEntry k x d.entries := rfl

@[simp] theorem keys_mapValues (f : String → β → γ) (d : Dict β) :
    (d.mapValues f).keys = d.keys := by
  simp [keys, mapValues, Function.comp_def]

end Dict

/-- A set of names, listed in increasing order. -/
abbrev NameSet := Dict Unit

namespace NameSet

def ofNames (names : List String) : NameSet := Dict.ofList (names.map fun n => (n, ()))

def add (s : NameSet) (name : String) : NameSet := s.insert name ()

end NameSet

end TrainingJobs
