/-!
# Sorted sets

A finite set is kept as a strictly increasing list of its members.  Members are compared by a key,
which is a list of strings in lexicographic order.

**Results.**
* `mem_insert`, `mem_union`, `mem_ofList`: what each operation does to membership.
* `ext_mem`: two sets with the same members are equal.
-/

namespace RowPatch

/-- Things that are told apart, and ordered, by a list of strings. -/
class Keyed (α : Type) where
  /-- The list of strings that stands for a member. -/
  key : α → List String
  /-- Different members have different keys. -/
  key_inj : ∀ a b : α, key a = key b → a = b

/-- A string is its own key. -/
instance : Keyed String where
  key s := [s]
  key_inj := by simp

/-- A finite set, kept as the increasing list of its members. -/
structure SortedSet (α : Type) [Keyed α] where
  /-- The members in increasing order. -/
  toList : List α
  increasing : toList.Pairwise (fun a b => Keyed.key a < Keyed.key b)

namespace SortedSet

variable {α : Type} [Keyed α]

theorem key_trichotomy (a b : α) :
    Keyed.key a < Keyed.key b ∨ a = b ∨ Keyed.key b < Keyed.key a := by
  by_cases h : Keyed.key a < Keyed.key b
  · exact Or.inl h
  · by_cases h' : Keyed.key b < Keyed.key a
    · exact Or.inr (Or.inr h')
    · exact Or.inr (Or.inl (Keyed.key_inj a b
        (List.le_antisymm (List.not_lt.1 h') (List.not_lt.1 h))))

/-- Puts `a` at its place in an increasing list that need not hold it yet. -/
def place (a : α) : List α → List α
  | [] => [a]
  | b :: l =>
      if Keyed.key a < Keyed.key b then a :: b :: l
      else if Keyed.key b < Keyed.key a then b :: place a l
      else b :: l

theorem mem_place (a x : α) : ∀ l : List α, x ∈ place a l ↔ x = a ∨ x ∈ l
  | [] => by simp [place]
  | b :: l => by
      have ih := mem_place a x l
      unfold place
      split
      · simp
      · split
        · simp only [List.mem_cons, ih]
          exact or_left_comm
        · rename_i h h'
          rcases key_trichotomy a b with hlt | heq | hgt
          · exact absurd hlt h
          · subst heq
            simp
          · exact absurd hgt h'

theorem pairwise_place (a : α) :
    ∀ l : List α, l.Pairwise (fun x y => Keyed.key x < Keyed.key y) →
      (place a l).Pairwise (fun x y => Keyed.key x < Keyed.key y)
  | [], _ => by simp [place]
  | b :: l, hl => by
      have hb : ∀ {x : α}, x ∈ l → Keyed.key b < Keyed.key x := List.rel_of_pairwise_cons hl
      have ih := pairwise_place a l hl.of_cons
      unfold place
      split
      · rename_i h
        refine List.pairwise_cons.2 ⟨?_, hl⟩
        intro x hx
        rcases List.mem_cons.1 hx with rfl | hx
        · exact h
        · exact List.lt_trans h (hb hx)
      · split
        · rename_i h
          refine List.pairwise_cons.2 ⟨?_, ih⟩
          intro x hx
          rcases (mem_place a x l).1 hx with rfl | hx
          · exact h
          · exact hb hx
        · exact hl

/-- The set without members. -/
def empty : SortedSet α := ⟨[], .nil⟩

instance : EmptyCollection (SortedSet α) := ⟨empty⟩

instance : Inhabited (SortedSet α) := ⟨∅⟩

instance : Membership α (SortedSet α) := ⟨fun s a => a ∈ s.toList⟩

instance [DecidableEq α] (a : α) (s : SortedSet α) : Decidable (a ∈ s) :=
  inferInstanceAs (Decidable (a ∈ s.toList))

instance [DecidableEq α] : DecidableEq (SortedSet α) := fun s t =>
  if h : s.toList = t.toList then
    isTrue (by cases s; cases t; cases h; rfl)
  else
    isFalse (by rintro rfl; exact h rfl)

/-- Adds a member. -/
def insert (s : SortedSet α) (a : α) : SortedSet α :=
  ⟨place a s.toList, pairwise_place a s.toList s.increasing⟩

/-- Adds every member of a list. -/
def insertMany (s : SortedSet α) (l : List α) : SortedSet α := l.foldl insert s

/-- The set of the members of a list. -/
def ofList (l : List α) : SortedSet α := insertMany ∅ l

/-- The members of either set. -/
def union (s t : SortedSet α) : SortedSet α := s.insertMany t.toList

instance : Union (SortedSet α) := ⟨union⟩

@[simp] theorem mem_toList (a : α) (s : SortedSet α) : a ∈ s.toList ↔ a ∈ s := Iff.rfl

@[simp] theorem not_mem_empty (a : α) : a ∉ (∅ : SortedSet α) := List.not_mem_nil

@[simp] theorem mem_insert (s : SortedSet α) (a x : α) : x ∈ s.insert a ↔ x = a ∨ x ∈ s :=
  mem_place a x s.toList

@[simp] theorem mem_insertMany (x : α) :
    ∀ (l : List α) (s : SortedSet α), x ∈ s.insertMany l ↔ x ∈ s ∨ x ∈ l
  | [], s => by simp [insertMany]
  | a :: l, s => by
      have ih := mem_insertMany x l (s.insert a)
      show x ∈ (s.insert a).insertMany l ↔ _
      rw [ih, mem_insert, List.mem_cons]
      constructor
      · rintro ((h | h) | h)
        · exact Or.inr (Or.inl h)
        · exact Or.inl h
        · exact Or.inr (Or.inr h)
      · rintro (h | h | h)
        · exact Or.inl (Or.inr h)
        · exact Or.inl (Or.inl h)
        · exact Or.inr h

@[simp] theorem mem_ofList (x : α) (l : List α) : x ∈ ofList l ↔ x ∈ l := by
  simp [ofList]

@[simp] theorem mem_union (x : α) (s t : SortedSet α) : x ∈ s ∪ t ↔ x ∈ s ∨ x ∈ t :=
  mem_insertMany x t.toList s

theorem toList_eq_of_mem_iff :
    ∀ l m : List α, l.Pairwise (fun x y => Keyed.key x < Keyed.key y) →
      m.Pairwise (fun x y => Keyed.key x < Keyed.key y) → (∀ x, x ∈ l ↔ x ∈ m) → l = m
  | [], [], _, _, _ => rfl
  | [], b :: m, _, _, h => absurd ((h b).2 List.mem_cons_self) List.not_mem_nil
  | a :: l, [], _, _, h => absurd ((h a).1 List.mem_cons_self) List.not_mem_nil
  | a :: l, b :: m, hl, hm, h => by
      have hal : ∀ x, x ∈ l → Keyed.key a < Keyed.key x := fun x hx => List.rel_of_pairwise_cons hl hx
      have hbm : ∀ x, x ∈ m → Keyed.key b < Keyed.key x := fun x hx => List.rel_of_pairwise_cons hm hx
      have hab : a = b := by
        rcases List.mem_cons.1 ((h a).1 List.mem_cons_self) with he | ha
        · exact he
        · rcases List.mem_cons.1 ((h b).2 List.mem_cons_self) with he | hb
          · exact he.symm
          · exact absurd (List.lt_trans (hal b hb) (hbm a ha)) (List.lt_irrefl _)
      subst hab
      have hrest : ∀ x, x ∈ l ↔ x ∈ m := by
        intro x
        constructor
        · intro hx
          rcases List.mem_cons.1 ((h x).1 (List.mem_cons_of_mem _ hx)) with rfl | hx'
          · exact absurd (hal x hx) (List.lt_irrefl _)
          · exact hx'
        · intro hx
          rcases List.mem_cons.1 ((h x).2 (List.mem_cons_of_mem _ hx)) with rfl | hx'
          · exact absurd (hbm x hx) (List.lt_irrefl _)
          · exact hx'
      rw [toList_eq_of_mem_iff l m hl.of_cons hm.of_cons hrest]

/-- A set is determined by its members. -/
theorem ext_mem {s t : SortedSet α} (h : ∀ x, x ∈ s ↔ x ∈ t) : s = t := by
  cases s with
  | mk l hl =>
      cases t with
      | mk m hm =>
          have : l = m := toList_eq_of_mem_iff l m hl hm h
          subst this
          rfl

end SortedSet

end RowPatch
