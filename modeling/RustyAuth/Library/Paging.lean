/-
  Ordered sets that keep their smallest elements, and listings read page by page.

  Elements that arrive in any order, each kept only while it is among the `limit` smallest, leave
  the `limit` smallest of all (`keepSmallest_eq`).  A listing in pages hands back a cursor until it
  is complete; if every page lists what lies between its two cursors, following them lists
  everything (`pagesList_all`).
-/
import RustyAuth.Library.Outcome
import Mathlib.Data.List.Sort

namespace RustyAuth.Library

/-! ## Ordered sets -/

section Ordered

variable {α : Type} [LinearOrder α]

/-- `BTreeSet::insert`, on the elements in their order. -/
def insertOrdered (x : α) : List α → List α
  | [] => [x]
  | y :: ys => if x < y then x :: y :: ys else if x = y then y :: ys else y :: insertOrdered x ys

def orderedSet (xs : List α) : List α := xs.foldl (fun set x => insertOrdered x set) []

theorem mem_insertOrdered {x y : α} {set : List α} :
    y ∈ insertOrdered x set ↔ y = x ∨ y ∈ set := by
  induction set with
  | nil => simp [insertOrdered]
  | cons z set ih =>
    unfold insertOrdered
    split
    · exact List.mem_cons
    · split
      · next heq =>
        rw [heq, List.mem_cons]
        tauto
      · rw [List.mem_cons, ih, List.mem_cons]
        tauto

theorem pairwise_insertOrdered {x : α} {set : List α} (h : set.Pairwise (· < ·)) :
    (insertOrdered x set).Pairwise (· < ·) := by
  induction set with
  | nil => exact List.pairwise_singleton _ _
  | cons z set ih =>
    obtain ⟨hz, hset⟩ := List.pairwise_cons.mp h
    unfold insertOrdered
    split
    · next hlt =>
      refine List.pairwise_cons.mpr ⟨fun y hy => ?_, h⟩
      rcases List.mem_cons.mp hy with rfl | hmem
      · exact hlt
      · exact hlt.trans (hz y hmem)
    · next hnlt =>
      split
      · exact h
      · next hne =>
        refine List.pairwise_cons.mpr ⟨fun y hy => ?_, ih hset⟩
        rcases mem_insertOrdered.mp hy with rfl | hmem
        · exact lt_of_le_of_ne (not_lt.mp hnlt) (Ne.symm hne)
        · exact hz y hmem

theorem foldl_insertOrdered (xs : List α) {set : List α} (h : set.Pairwise (· < ·)) :
    (xs.foldl (fun set x => insertOrdered x set) set).Pairwise (· < ·) ∧
      ∀ y, y ∈ xs.foldl (fun set x => insertOrdered x set) set ↔ y ∈ xs ∨ y ∈ set := by
  induction xs generalizing set with
  | nil => exact ⟨h, fun y => by simp⟩
  | cons x xs ih =>
    obtain ⟨hsorted, hmem⟩ := ih (pairwise_insertOrdered (x := x) h)
    refine ⟨hsorted, fun y => ?_⟩
    rw [List.foldl_cons, hmem, mem_insertOrdered, List.mem_cons]
    tauto

theorem pairwise_orderedSet (xs : List α) : (orderedSet xs).Pairwise (· < ·) :=
  (foldl_insertOrdered xs List.Pairwise.nil).1

@[simp] theorem mem_orderedSet {xs : List α} {y : α} : y ∈ orderedSet xs ↔ y ∈ xs := by
  unfold orderedSet
  rw [(foldl_insertOrdered xs List.Pairwise.nil).2 y]
  simp

/-- An ordered list is the ordered set of its elements. -/
theorem eq_orderedSet {set xs : List α} (h : set.Pairwise (· < ·)) (hmem : ∀ y, y ∈ set ↔ y ∈ xs) :
    set = orderedSet xs :=
  h.eq_of_mem_iff (pairwise_orderedSet xs) fun y => by rw [hmem, mem_orderedSet]

theorem filter_orderedSet (p : α → Bool) (xs : List α) :
    orderedSet (xs.filter p) = (orderedSet xs).filter p := by
  refine (eq_orderedSet ((pairwise_orderedSet xs).filter p) fun y => ?_).symm
  rw [List.mem_filter, List.mem_filter, mem_orderedSet]

/-- What is not among the first `limit` elements does not change which ones are. -/
theorem take_insertOrdered (x : α) (set : List α) (limit : Nat) :
    (insertOrdered x (set.take limit)).take limit = (insertOrdered x set).take limit := by
  induction set generalizing limit with
  | nil => rw [List.take_nil]
  | cons y set ih =>
    cases limit with
    | zero => rfl
    | succ limit =>
      rw [List.take_succ_cons, insertOrdered, insertOrdered]
      split
      · rw [List.take_succ_cons, List.take_succ_cons]
        congr 1
        cases limit with
        | zero => rfl
        | succ limit =>
          rw [List.take_succ_cons, List.take_succ_cons, List.take_take, Nat.min_eq_left]
          omega
      · split
        · rw [List.take_succ_cons, List.take_succ_cons, List.take_take, Nat.min_self]
        · rw [List.take_succ_cons, List.take_succ_cons, ih]

/-- An element is added, and the largest one leaves if there are too many. -/
def keepSmallest (limit : Nat) (kept : List α) (x : α) : List α :=
  let kept := insertOrdered x kept
  if limit < kept.length then kept.dropLast else kept

theorem length_insertOrdered (x : α) (set : List α) :
    (insertOrdered x set).length ≤ set.length + 1 := by
  induction set with
  | nil => exact le_refl 1
  | cons y set ih =>
    unfold insertOrdered
    split
    · exact le_refl _
    · split
      · exact Nat.le_succ _
      · exact Nat.succ_le_succ ih

theorem keepSmallest_take (limit : Nat) (set : List α) (x : α) :
    keepSmallest limit (set.take limit) x = (insertOrdered x set).take limit := by
  rw [← take_insertOrdered]
  unfold keepSmallest
  dsimp only
  have hlength := length_insertOrdered x (set.take limit)
  have htake : (set.take limit).length ≤ limit := List.length_take_le limit set
  split
  · next hlong =>
    rw [List.dropLast_eq_take]
    congr 1
    omega
  · next hshort => exact (List.take_of_length_le (by omega)).symm

theorem foldl_keepSmallest (limit : Nat) (xs set : List α) :
    xs.foldl (keepSmallest limit) (set.take limit) =
      (xs.foldl (fun set x => insertOrdered x set) set).take limit := by
  induction xs generalizing set with
  | nil => rfl
  | cons x xs ih => rw [List.foldl_cons, keepSmallest_take, ih, List.foldl_cons]

/-- Whatever the order of arrival, the smallest elements are kept. -/
theorem keepSmallest_eq (limit : Nat) (xs : List α) :
    xs.foldl (keepSmallest limit) [] = (orderedSet xs).take limit := by
  have h := foldl_keepSmallest limit xs []
  rwa [List.take_nil] at h

theorem orderedSet_append (xs ys : List α) :
    orderedSet (xs ++ ys) = ys.foldl (fun set x => insertOrdered x set) (orderedSet xs) :=
  List.foldl_append

/-- Elements that were dropped before make no difference. -/
theorem take_orderedSet_append (limit : Nat) (xs ys : List α) :
    (orderedSet ((orderedSet xs).take limit ++ ys)).take limit =
      (orderedSet (xs ++ ys)).take limit := by
  have hself : orderedSet ((orderedSet xs).take limit) = (orderedSet xs).take limit :=
    (eq_orderedSet ((pairwise_orderedSet xs).sublist (List.take_sublist _ _)) fun y => Iff.rfl).symm
  rw [orderedSet_append, hself, ← foldl_keepSmallest, List.take_take, Nat.min_self,
    foldl_keepSmallest, ← orderedSet_append]

/-- The elements below one of an ordered list are those before it. -/
theorem filter_lt_eq_take {set : List α} (h : set.Pairwise (· < ·)) {i : Nat} {x : α}
    (hx : set[i]? = some x) : set.filter (· < x) = set.take i := by
  induction set generalizing i with
  | nil => cases hx
  | cons y set ih =>
    obtain ⟨hy, hset⟩ := List.pairwise_cons.mp h
    cases i with
    | zero =>
      obtain rfl := Option.some.inj hx
      rw [List.take_zero, List.filter_eq_nil_iff]
      intro z hz
      rcases List.mem_cons.mp hz with rfl | hmem
      · simp
      · simpa using (hy z hmem).le
    | succ i =>
      have hmem : x ∈ set := List.mem_of_getElem? hx
      rw [List.filter_cons_of_pos (by simpa using hy x hmem), ih hset hx, List.take_succ_cons]

end Ordered

/-! ## Pages -/

section Pages

variable {C U E : Type}

/-- Following the cursors of a listing; `none` if the fuel does not suffice. -/
def follow (page : Nat → Option C → Except E (List U × Option C)) :
    Nat → Nat → Option C → Except E (Option (List U))
  | 0, _, _ => .ok none
  | fuel + 1, i, after =>
      match page i after with
      | .error e => .error e
      | .ok (users, none) => .ok (some users)
      | .ok (users, some cursor) =>
          (follow page fuel (i + 1) (some cursor)).map (Option.map (users ++ ·))

/-- The pages from `after` on end, and list these. -/
def PagesList (page : Nat → Option C → Except E (List U × Option C)) (i : Nat) (after : Option C)
    (listed : List U) : Prop :=
  ∃ fuel, follow page fuel i after = .ok (some listed)

variable {page : Nat → Option C → Except E (List U × Option C)} {i : Nat} {after : Option C}
  {users listed : List U}

theorem pagesList_of_error {e : E} (h : page i after = .error e) : ¬ PagesList page i after listed := by
  rintro ⟨fuel, hfuel⟩
  cases fuel with
  | zero => cases hfuel
  | succ fuel =>
    rw [follow, h] at hfuel
    cases hfuel

theorem pagesList_last (h : page i after = .ok (users, none)) :
    PagesList page i after listed ↔ listed = users := by
  constructor
  · rintro ⟨fuel, hfuel⟩
    cases fuel with
    | zero => cases hfuel
    | succ fuel =>
      rw [follow, h] at hfuel
      exact (Option.some.inj (Except.ok.inj hfuel)).symm
  · rintro rfl
    exact ⟨1, by rw [follow, h]⟩

theorem pagesList_next {cursor : C} (h : page i after = .ok (users, some cursor)) :
    PagesList page i after listed ↔
      ∃ rest, listed = users ++ rest ∧ PagesList page (i + 1) (some cursor) rest := by
  constructor
  · rintro ⟨fuel, hfuel⟩
    cases fuel with
    | zero => cases hfuel
    | succ fuel =>
      rw [follow, h] at hfuel
      dsimp only at hfuel
      cases hmore : follow page fuel (i + 1) (some cursor) with
      | error e =>
        rw [hmore] at hfuel
        cases hfuel
      | ok more =>
        rw [hmore] at hfuel
        obtain ⟨rest, rfl, rfl⟩ := Option.map_eq_some_iff.mp (Except.ok.inj hfuel)
        exact ⟨rest, rfl, fuel, hmore⟩
  · rintro ⟨rest, rfl, fuel, hfuel⟩
    refine ⟨fuel + 1, ?_⟩
    rw [follow, h]
    dsimp only
    rw [hfuel]
    rfl

end Pages

section Cursors

variable {α U E : Type} [LinearOrder α]

/-- The elements past a cursor. -/
def beyond (after : Option α) (x : α) : Bool := after.all (· < x)

section Keyed

variable {β : Type} (key : β → α) {set : List β} (h : set.Pairwise (key · < key ·))

include h

theorem filter_split (cursor : α) :
    set.filter (key · ≤ cursor) ++ set.filter (cursor < key ·) = set := by
  induction set with
  | nil => rfl
  | cons x set ih =>
    obtain ⟨hx, hset⟩ := List.pairwise_cons.mp h
    by_cases hle : key x ≤ cursor
    · rw [List.filter_cons_of_pos (by simpa using hle), List.cons_append,
        List.filter_cons_of_neg (by simpa using hle), ih hset]
    · have hlt : cursor < key x := not_le.mp hle
      have hnone : set.filter (key · ≤ cursor) = [] := by
        rw [List.filter_eq_nil_iff]
        intro y hy
        simpa using hlt.trans (hx y hy)
      have hall : set.filter (cursor < key ·) = set := by
        rw [List.filter_eq_self]
        intro y hy
        simpa using hlt.trans (hx y hy)
      rw [List.filter_cons_of_neg (by simpa using hlt), hnone, List.nil_append,
        List.filter_cons_of_pos (by simpa using hlt), hall]

/-- What lies past an element of an ordered list is what comes after it. -/
theorem filter_gt_eq_drop {i : Nat} {x : β} (hx : set[i]? = some x) :
    set.filter (key x < key ·) = set.drop (i + 1) := by
  induction set generalizing i with
  | nil => cases hx
  | cons y set ih =>
    obtain ⟨hy, hset⟩ := List.pairwise_cons.mp h
    cases i with
    | zero =>
      obtain rfl := Option.some.inj hx
      rw [List.filter_cons_of_neg (by simp), List.drop_succ_cons, List.drop_zero,
        List.filter_eq_self]
      intro z hz
      simpa using hy z hz
    | succ i =>
      have hmem : x ∈ set := List.mem_of_getElem? hx
      rw [List.filter_cons_of_neg (by simpa using (hy x hmem).le), ih hset hx, List.drop_succ_cons]

theorem filter_le_eq_take {i : Nat} {x : β} (hx : set[i]? = some x) :
    set.filter (key · ≤ key x) = set.take (i + 1) := by
  have hsplit := filter_split key h (key x)
  rw [filter_gt_eq_drop key h hx] at hsplit
  exact List.append_cancel_right (hsplit.trans (List.take_append_drop (i + 1) set).symm)

end Keyed

theorem filter_beyond_cursor (set : List α) {after : Option α} {cursor : α}
    (h : beyond after cursor = true) :
    set.filter (beyond (some cursor)) = (set.filter (beyond after)).filter (cursor < ·) := by
  rw [List.filter_filter]
  refine List.filter_congr fun x _ => ?_
  cases after with
  | none => simp [beyond]
  | some c =>
    have hc : c < cursor := by simpa [beyond] using h
    by_cases hx : cursor < x
    · simp [beyond, hx, hc.trans hx]
    · simp [beyond, hx]

/-- What a page of the listing `set.filterMap f` has to be. -/
def GoodPage (set : List α) (f : α → Option U) (after : Option α)
    (page : Except E (List U × Option α)) : Prop :=
  page = .ok ((set.filter (beyond after)).filterMap f, none) ∨
    ∃ cursor ∈ set.filter (beyond after),
      page = .ok (((set.filter (beyond after)).filter (· ≤ cursor)).filterMap f, some cursor)

/-- If every page lists what lies up to its cursor, the pages end and list everything. -/
theorem pagesList_all {page : Nat → Option α → Except E (List U × Option α)} {set : List α}
    (hset : set.Pairwise (· < ·)) {f : α → Option U}
    (hpage : ∀ i after, GoodPage set f after (page i after)) (i : Nat) (after : Option α) :
    PagesList page i after ((set.filter (beyond after)).filterMap f) := by
  -- by induction on what is left to list
  induction hn : (set.filter (beyond after)).length using Nat.strong_induction_on
    generalizing i after with
  | _ n ih =>
    rcases hpage i after with hlast | ⟨cursor, hcursor, hnext⟩
    · exact (pagesList_last hlast).mpr rfl
    · have hbeyond := (List.mem_filter.mp hcursor).2
      have hrest := filter_beyond_cursor set hbeyond
      have hsplit : (set.filter (beyond after)).filter (· ≤ cursor) ++
          (set.filter (beyond after)).filter (cursor < ·) = set.filter (beyond after) :=
        filter_split id (hset.filter (beyond after)) cursor
      rw [pagesList_next hnext]
      refine ⟨(set.filter (beyond (some cursor))).filterMap f, ?_, ih _ ?_ _ _ rfl⟩
      · rw [hrest, ← List.filterMap_append, hsplit]
      · rw [hrest, ← hn]
        refine List.length_filter_lt_length_iff_exists.mpr ⟨cursor, hcursor, ?_⟩
        simp

end Cursors

end RustyAuth.Library
