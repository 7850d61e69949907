import RowPatch.Proofs.Table.Composition

/-!
# Updates in another order

Updates are independent when none of them changes a column that a base record names, or a column that
another one changes.  Then an update changes nothing that decides which row another one writes to,
and two writes to one row go to different cells.  So the order does not matter.

**Results.**
* `modifyFirst_comm`: when two changes of a list, each at its first match, can be swapped.
* `Sheet.writeRow_comm`: writes of different columns can be swapped.
* `Sheet.update_comm`, `Sheet.failure?_update_update`: two independent updates.
* `independent_updates_commute`: any number of them, in any order.
-/

namespace RowPatch

/-- The list with its first match changed, if there is a match. -/
def modifyFirst {α : Type} (p : α → Bool) (f : α → α) (l : List α) : List α :=
  ((replaceFirst p f l).map Prod.snd).getD l

theorem modifyFirst_cons {α : Type} (p : α → Bool) (f : α → α) (a : α) (l : List α) :
    modifyFirst p f (a :: l) = if p a then f a :: l else a :: modifyFirst p f l := by
  unfold modifyFirst
  rw [replaceFirst]
  cases p a with
  | true => rfl
  | false => cases replaceFirst p f l <;> rfl

/-- A change that does not concern `q` leaves alone whether something in the list satisfies `q`. -/
theorem any_modifyFirst {α : Type} (p q : α → Bool) (f : α → α) (hq : ∀ a, q (f a) = q a) :
    ∀ l : List α, (modifyFirst p f l).any q = l.any q
  | [] => rfl
  | a :: l => by
      have ih := any_modifyFirst p q f hq l
      rw [modifyFirst_cons]
      cases p a with
      | true => simp [hq]
      | false => simp [ih]

/-- Two changes can be swapped if neither affects what the other one looks for and both can be made to
one element in either order. -/
theorem modifyFirst_comm {α : Type} (p q : α → Bool) (f g : α → α)
    (hp : ∀ a, p (g a) = p a) (hq : ∀ a, q (f a) = q a) (hfg : ∀ a, f (g a) = g (f a)) :
    ∀ l : List α, modifyFirst p f (modifyFirst q g l) = modifyFirst q g (modifyFirst p f l)
  | [] => rfl
  | a :: l => by
      have ih := modifyFirst_comm p q f g hp hq hfg l
      cases hpa : p a with
      | true => cases hqa : q a <;> simp [modifyFirst_cons, hpa, hqa, hp, hq, hfg]
      | false => cases hqa : q a <;> simp [modifyFirst_cons, hpa, hqa, hp, ih]

/-- What an update is asked for with. -/
structure RowUpdate where
  base : Record
  changes : Record

/-- Why an update failed, if it did. -/
def failure? : Except Fault Record → Option Fault
  | .ok _ => none
  | .error f => some f

/-- No update changes one of the columns that a base record names, or that another update changes. -/
structure Independent (columns : List String) (updates : List RowUpdate) : Prop where
  bases : ∀ u ∈ updates, ∀ w ∈ updates,
    ∀ c ∈ columns, c ∈ u.changes.names → c ∉ w.base.names
  changes : updates.Pairwise fun u w =>
    ∀ c ∈ columns, c ∈ u.changes.names → c ∉ w.changes.names

namespace Independent

variable {columns : List String} {u : RowUpdate} {l l' : List RowUpdate}

theorem tail (h : Independent columns (u :: l)) : Independent columns l :=
  ⟨fun v hv w hw => h.bases v (List.mem_cons_of_mem u hv) w (List.mem_cons_of_mem u hw),
    (List.pairwise_cons.1 h.changes).2⟩

theorem perm (h : Independent columns l) (hperm : l.Perm l') : Independent columns l' := by
  refine ⟨fun v hv w hw => h.bases v (hperm.mem_iff.2 hv) w (hperm.mem_iff.2 hw), ?_⟩
  refine (hperm.pairwise_iff ?_).1 h.changes
  intro v w hvw c hc hw hv
  exact hvw c hc hv hw

end Independent

namespace Sheet

variable (s : Sheet)

/-- Asks for updates one after the other; gives the answers and the sheet afterwards. -/
def updateAll (s : Sheet) : List RowUpdate → List (Except Fault Record) × Sheet
  | [] => ([], s)
  | u :: l =>
      let r := s.update u.base u.changes
      let rest := r.2.updateAll l
      (r.1 :: rest.1, rest.2)

/-- The rows after an update. -/
def patched (u : RowUpdate) (rows : List (Vector Value s.columns.length)) :
    List (Vector Value s.columns.length) :=
  match u.changes.names.findSome? s.refusal? with
  | some _ => rows
  | none => modifyFirst (s.rowMatches u.base) (s.writeRow u.changes) rows

/-- The sheet with other rows and another count of updates. -/
def holding (rows : List (Vector Value s.columns.length)) (updates : Nat) : Sheet :=
  { s with rows := rows, updates := updates }

theorem update_snd (u : RowUpdate) :
    (s.update u.base u.changes).2 = s.holding (s.patched u s.rows) (s.updates + 1) := by
  unfold update patched
  cases u.changes.names.findSome? s.refusal? with
  | some f => rfl
  | none =>
      unfold modifyFirst
      cases replaceFirst (s.rowMatches u.base) (s.writeRow u.changes) s.rows with
      | none => rfl
      | some r => rfl

theorem columns_update (u : RowUpdate) :
    (s.update u.base u.changes).2.columns = s.columns := by
  rw [update_snd]
  rfl

/-- An update fails because of a column or because no row matches, the columns first. -/
theorem failure?_update (u : RowUpdate) :
    failure? (s.update u.base u.changes).1 =
      (u.changes.names.findSome? s.refusal?).or
        (if s.rows.any (s.rowMatches u.base) then none else some (s.noMatch u.base)) := by
  cases hrefused : u.changes.names.findSome? s.refusal? with
  | some f =>
      simp only [update, hrefused]
      rfl
  | none =>
      have hwritable := List.findSome?_eq_none_iff.1 hrefused
      rcases s.no_match_or_first u.base with hno | ⟨front, row, back, hrows, hfront, hrow⟩
      · have hany : s.rows.any (s.rowMatches u.base) = false := by simpa using hno
        rw [s.update_of_no_match u.base u.changes hwritable hno, hany]
        rfl
      · have hany : s.rows.any (s.rowMatches u.base) = true := by simp [hrows, hrow]
        rw [s.update_of_first u.base u.changes hwritable front back row hrows hfront hrow, hany]
        rfl

theorem patched_holding
    (rows rows' : List (Vector Value s.columns.length))
    (k : Nat)
    (u : RowUpdate) :
    (s.holding rows k).patched u rows' = s.patched u rows' := by
  have hwrite : (s.holding rows k).writeRow u.changes = s.writeRow u.changes :=
    funext (s.writeRow_with rows k u.changes)
  unfold patched
  rw [hwrite]
  rfl

theorem update_holding_snd
    (rows : List (Vector Value s.columns.length))
    (k : Nat)
    (u : RowUpdate) :
    ((s.holding rows k).update u.base u.changes).2 = s.holding (s.patched u rows) (k + 1) := by
  rw [update_snd]
  exact congrArg (s.holding · (k + 1)) (s.patched_holding rows rows k u)

/-- Writes of different columns can be swapped. -/
theorem writeRow_comm
    (changes changes' : Record)
    (hdisjoint : ∀ c ∈ s.columns, c ∈ changes.names → c ∉ changes'.names)
    (row : Vector Value s.columns.length) :
    s.writeRow changes (s.writeRow changes' row) = s.writeRow changes' (s.writeRow changes row) := by
  have hcell : ∀ i : Fin s.columns.length,
      (s.writeRow changes (s.writeRow changes' row)).get i =
        (s.writeRow changes' (s.writeRow changes row)).get i := by
    intro i
    simp only [get_writeRow]
    split
    · -- at most one of the two records has the column
      have hcolumn : s.columns.get i ∈ s.columns := List.get_mem _ i
      by_cases hmem : s.columns.get i ∈ changes.names
      · have hnone := (Cells.get?_eq_none_iff changes').2 (hdisjoint _ hcolumn hmem)
        rw [hnone]
        rfl
      · have hnone := (Cells.get?_eq_none_iff changes).2 hmem
        rw [hnone]
        rfl
    · rfl
  exact Vector.ext fun i hi => hcell ⟨i, hi⟩

section Two

variable (u w : RowUpdate)
  (hbase : ∀ c ∈ s.columns, c ∈ u.changes.names → c ∉ w.base.names)
include hbase

/-- An update that changes none of the columns that a base record names keeps a match. -/
theorem rowMatches_writeRow_of_writable
    (hwritable : u.changes.names.findSome? s.refusal? = none)
    (row : Vector Value s.columns.length) :
    s.rowMatches w.base (s.writeRow u.changes row) = s.rowMatches w.base row := by
  refine s.rowMatches_writeRow w.base u.changes row ?_
  intro n hn
  have hcolumn := ((s.refusal?_eq_none_iff n).1 (List.findSome?_eq_none_iff.1 hwritable n hn)).1
  exact hbase n hcolumn hn

theorem any_patched (rows : List (Vector Value s.columns.length)) :
    (s.patched u rows).any (s.rowMatches w.base) = rows.any (s.rowMatches w.base) := by
  unfold patched
  cases hwritable : u.changes.names.findSome? s.refusal? with
  | some f => rfl
  | none =>
      exact any_modifyFirst _ _ _ (s.rowMatches_writeRow_of_writable u w hbase hwritable) rows

/-- An update fails after another one as it fails before it. -/
theorem failure?_update_update :
    failure? ((s.update u.base u.changes).2.update w.base w.changes).1 =
      failure? (s.update w.base w.changes).1 := by
  rw [update_snd, failure?_update, failure?_update, ← s.any_patched u w hbase s.rows]
  rfl

/-- Two independent updates can be swapped. -/
theorem update_comm
    (hbase' : ∀ c ∈ s.columns, c ∈ w.changes.names → c ∉ u.base.names)
    (hchanges : ∀ c ∈ s.columns, c ∈ u.changes.names → c ∉ w.changes.names) :
    ((s.update u.base u.changes).2.update w.base w.changes).2 =
      ((s.update w.base w.changes).2.update u.base u.changes).2 := by
  have hrows : s.patched w (s.patched u s.rows) = s.patched u (s.patched w s.rows) := by
    unfold patched
    -- a refused update leaves the rows alone, so only two granted ones have anything to swap
    cases hu : u.changes.names.findSome? s.refusal? with
    | some f => rfl
    | none =>
        cases hw : w.changes.names.findSome? s.refusal? with
        | some f => rfl
        | none =>
            exact (modifyFirst_comm _ _ _ _ (s.rowMatches_writeRow_of_writable w u hbase' hw)
              (s.rowMatches_writeRow_of_writable u w hbase hu)
              (s.writeRow_comm u.changes w.changes hchanges) s.rows).symm
  rw [s.update_snd u, s.update_snd w, update_holding_snd, update_holding_snd, hrows]

end Two

/-- Each of some independent updates fails as it fails on the sheet before all of them. -/
theorem failures_updateAll
    (l : List RowUpdate) :
    ∀ s : Sheet, Independent s.columns l →
      (s.updateAll l).1.map failure? = l.map fun u => failure? (s.update u.base u.changes).1 := by
  induction l with
  | nil =>
      intro s _
      rfl
  | cons u l ih =>
      intro s h
      rw [updateAll, List.map_cons, List.map_cons, ih _ (s.columns_update u ▸ h.tail)]
      congr 1
      apply List.map_congr_left
      intro w hw
      exact s.failure?_update_update u w
        (h.bases u List.mem_cons_self w (List.mem_cons_of_mem u hw))

/-- Independent updates in another order give the same sheet. -/
theorem updateAll_perm
    {l l' : List RowUpdate}
    (hperm : l.Perm l') :
    ∀ s : Sheet, Independent s.columns l → (s.updateAll l').2 = (s.updateAll l).2 := by
  induction hperm with
  | nil =>
      intro s _
      rfl
  | cons u _ ih =>
      intro s h
      exact ih _ (s.columns_update u ▸ h.tail)
  | swap u w l =>
      intro s h
      have hcomm := s.update_comm u w
        (h.bases u (by simp) w (by simp)) (h.bases w (by simp) u (by simp))
        (fun c hc hu hw => (List.pairwise_cons.1 h.changes).1 u List.mem_cons_self c hc hw hu)
      exact congrArg (fun s' => (updateAll s' l).2) hcomm
  | trans hperm _ ih ih' =>
      intro s h
      exact (ih' s (h.perm hperm)).trans (ih s h)

end Sheet

/-- Independent updates leave the same sheet in every order, and each of them succeeds, or fails with
the same fault, as it does when it is the first one. -/
theorem independent_updates_commute
    (s : Sheet)
    (updates : List RowUpdate)
    (h : Independent s.columns updates)
    (order : List RowUpdate)
    (horder : updates.Perm order) :
    (s.updateAll order).2 = (s.updateAll updates).2 ∧
      (s.updateAll order).1.map failure? =
        order.map fun u => failure? (s.update u.base u.changes).1 :=
  ⟨Sheet.updateAll_perm horder s h, Sheet.failures_updateAll order s (h.perm horder)⟩

/-- Two updates of one row, one of them under a repeated name, and two that fail: for a name
that is no column, and for a base record that no row matches. -/
theorem four_updates_reversed :
    let row (id name price : String) : Vector Value 4 :=
      #v[.string id, .blank, .string price, .string name]
    let s : Sheet := ⟨"items", ["id", "name", "price", "name"], ∅,
      [row "1" "pen" "2", row "2" "ink" "5"], 0⟩
    let second : Record := .ofList [("id", .string "2")]
    let rename : RowUpdate := ⟨second, .ofList [("name", .string "nib")]⟩
    let reprice : RowUpdate := ⟨second, .ofList [("price", .string "6")]⟩
    let refused : RowUpdate := ⟨.empty, .ofList [("colour", .blank)]⟩
    let unmatched : RowUpdate := ⟨.ofList [("id", .string "3")], .empty⟩
    let updates := [rename, refused, reprice, unmatched]
    (s.updateAll updates.reverse).2 = (s.updateAll updates).2 ∧
      (s.updateAll updates.reverse).1.map failure? =
        [some (s.noMatch unmatched.base), none, some (s.unknownColumn "colour"), none] := by
  intro row s second rename reprice refused unmatched updates
  have h : Independent s.columns updates := ⟨by decide, by decide⟩
  obtain ⟨hsheet, hfailures⟩ :=
    independent_updates_commute s updates h updates.reverse (List.reverse_perm updates).symm
  exact ⟨hsheet, hfailures⟩

end RowPatch
