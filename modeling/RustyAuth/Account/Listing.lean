/-
  Listing all accounts page by page.

  `listUsers` reads one candidate more than a page holds and takes a page with fewer accounts for
  the last.  A candidate that cannot be read makes the page look like that.  So the pages reach
  exactly the window of candidates in which the first record stands that cannot be read, and the
  listing is complete exactly if no account lies past it (`list_users_complete_iff`).
-/
import RustyAuth.Account.Search

namespace RustyAuth

open RustyAuth.Library

/-- The pages of the listing, each with a scan of its own. -/
def listPage (db : Db) (now : Nat) (scans : Nat → List (List Uuid)) (pageSize i : Nat)
    (after : Option Uuid) : Except AccountError (List User × Option Uuid) :=
  (listUsers db now (scans i) after pageSize).map fun page => (page.users, page.nextAfter)

/-! ## Windows -/

/-- No record that can be read lies past the window of one that cannot.  Windows overlap in one
    record: that of page `k` is `k * n` to `k * n + n`. -/
def WindowsReach (n : Nat) (f : Uuid → Option User) (ids : List Uuid) : Prop :=
  ∀ i j bad good, ids[i]? = some bad → ids[j]? = some good → i < j → f bad = none →
    (f good).isSome = true → j ≤ ((i - 1) / n + 1) * n

variable {i : Nat} {scans : Nat → List (List Uuid)} {rest : List Uuid} {stored : Finset Uuid}

section Windows

variable {n : Nat} {f : Uuid → Option User} {ids : List Uuid}

theorem div_window (hn : 0 < n) (hi : i ≤ n) : (i - 1) / n = 0 := by
  rw [Nat.div_eq_zero_iff]
  omega

theorem window_shift {j : Nat} (hn : 0 < n) (hi : 1 ≤ i) :
    j + n ≤ ((i + n - 1) / n + 1) * n ↔ j ≤ ((i - 1) / n + 1) * n := by
  have hdiv : (i + n - 1) / n = (i - 1) / n + 1 := by
    have hsum : i + n - 1 = i - 1 + n := by omega
    rw [hsum, Nat.add_div_right _ hn]
  rw [hdiv, Nat.add_mul ((i - 1) / n + 1) 1 n, Nat.one_mul]
  omega

/-- The last window: nothing past it can be read. -/
theorem windowsReach_last (hn : 0 < n)
    (h : ¬ (n < ids.length ∧ ∀ id ∈ ids.take (n + 1), (f id).isSome = true)) :
    WindowsReach n f ids ↔ ∀ id ∈ ids.drop (n + 1), f id = none := by
  constructor
  · intro hreach id hid
    by_contra hsome
    obtain ⟨j, hj⟩ := List.getElem?_of_mem hid
    rw [List.getElem?_drop] at hj
    have hlong : n < ids.length := by
      have hlt := (List.getElem?_eq_some_iff.mp hj).1
      omega
    rw [not_and] at h
    have hbad := h hlong
    simp only [not_forall] at hbad
    obtain ⟨bad, hmem, hunread⟩ := hbad
    obtain ⟨i, hi⟩ := List.getElem?_of_mem hmem
    have hin : i < n + 1 := by
      have hlt := (List.getElem?_eq_some_iff.mp hi).1
      rw [List.length_take] at hlt
      omega
    rw [List.getElem?_take_of_lt hin] at hi
    have hle := hreach i (n + 1 + j) bad id hi hj (by omega)
      (Option.isNone_iff_eq_none.mp (by simpa using hunread)) (Option.isSome_iff_ne_none.mpr hsome)
    rw [div_window hn (by omega)] at hle
    omega
  · intro hnone i j bad good hi hj hlt hbad hgood
    have hjn : j ≤ n := by
      by_contra hpast
      have hmem : good ∈ ids.drop (n + 1) := by
        refine List.mem_of_getElem? (i := j - (n + 1)) ?_
        rw [List.getElem?_drop, ← hj]
        congr 1
        omega
      rw [hnone good hmem] at hgood
      cases hgood
    calc j ≤ 1 * n := by omega
      _ ≤ ((i - 1) / n + 1) * n := Nat.mul_le_mul_right n (Nat.le_add_left 1 _)

/-- A window that can be read: what is listed next starts at its last record. -/
theorem windowsReach_next (hn : 0 < n) (h : ∀ id ∈ ids.take (n + 1), (f id).isSome = true) :
    WindowsReach n f ids ↔ WindowsReach n f (ids.drop n) := by
  -- the records of the window give no condition
  have hpast : ∀ {i : Nat} {bad : Uuid}, ids[i]? = some bad → f bad = none → n + 1 ≤ i := by
    intro i bad hi hbad
    by_contra hin
    have hmem : bad ∈ ids.take (n + 1) := by
      refine List.mem_of_getElem? (i := i) ?_
      rw [List.getElem?_take_of_lt (by omega), hi]
    have hsome := h bad hmem
    rw [hbad] at hsome
    cases hsome
  constructor
  · intro hreach i j bad good hi hj hlt hbad hgood
    rw [List.getElem?_drop] at hi hj
    have hafter := hpast hi hbad
    have hle := hreach (n + i) (n + j) bad good hi hj (by omega) hbad hgood
    rw [Nat.add_comm n i, Nat.add_comm n j] at hle
    exact (window_shift hn (by omega)).mp hle
  · intro hreach i j bad good hi hj hlt hbad hgood
    have hafter := hpast hi hbad
    obtain ⟨i', rfl⟩ : ∃ i', i = n + i' := ⟨i - n, by omega⟩
    obtain ⟨j', rfl⟩ : ∃ j', j = n + j' := ⟨j - n, by omega⟩
    rw [← List.getElem?_drop] at hi hj
    have hle := hreach i' j' bad good hi hj (by omega) hbad hgood
    rw [Nat.add_comm n i', Nat.add_comm n j']
    exact (window_shift hn (by omega)).mpr hle

end Windows

/-! ## Pages -/

section Pages

variable {db : Db} {now : Nat} {stored : Finset Uuid} {pageSize : Nat}

theorem listUsers_eq (db : Db) (now : Nat) {scan : List (List Uuid)} (hscan : IsScan stored scan)
    (hstored : stored.card ≤ maxSnapshotKeys) (hpage : pageSize ≠ 0 ∧ pageSize ≤ 100)
    (after : Option Uuid) {users : List User}
    (husers : ((stored.sort.filter (beyond after)).take (pageSize + 1)).filterMap
      (db.readable now) = users) :
    listUsers db now scan after pageSize = .ok ⟨users.take pageSize,
      if pageSize < users.length then users[pageSize - 1]?.map User.id else none⟩ := by
  unfold listUsers
  simp only [ensure_eq_ok, bind_eq_ok]
  refine ⟨(), hpage, _, hscan.candidateIds_eq hstored after (pageSize + 1), ?_⟩
  rw [husers]
  rfl

theorem length_filterMap_take_iff {f : Uuid → Option User} {ids : List Uuid} {n : Nat} :
    n < ((ids.take (n + 1)).filterMap f).length ↔
      n < ids.length ∧ ∀ id ∈ ids.take (n + 1), (f id).isSome = true := by
  have hle := List.length_filterMap_le f (ids.take (n + 1))
  have htake : (ids.take (n + 1)).length = min (n + 1) ids.length := List.length_take
  rw [← List.filterMap_length_eq_length]
  omega

section Readable

variable {f : Uuid → Option User} {ids : List Uuid} (h : ∀ id ∈ ids, (f id).isSome = true)

include h

theorem take_filterMap (k : Nat) : (ids.filterMap f).take k = (ids.take k).filterMap f := by
  induction ids generalizing k with
  | nil => rw [List.take_nil, List.filterMap_nil, List.take_nil]
  | cons id ids ih =>
    obtain ⟨user, huser⟩ := Option.isSome_iff_exists.mp (h id List.mem_cons_self)
    cases k with
    | zero => rfl
    | succ k =>
      rw [List.filterMap_cons_some huser, List.take_succ_cons, List.take_succ_cons,
        List.filterMap_cons_some huser, ih fun x hx => h x (List.mem_cons_of_mem _ hx)]

theorem getElem?_filterMap (k : Nat) : (ids.filterMap f)[k]? = ids[k]?.bind f := by
  induction ids generalizing k with
  | nil => rfl
  | cons id ids ih =>
    obtain ⟨user, huser⟩ := Option.isSome_iff_exists.mp (h id List.mem_cons_self)
    rw [List.filterMap_cons_some huser]
    cases k with
    | zero =>
      rw [List.getElem?_cons_zero, List.getElem?_cons_zero, Option.bind_some, huser]
    | succ k =>
      rw [List.getElem?_cons_succ, List.getElem?_cons_succ,
        ih fun x hx => h x (List.mem_cons_of_mem _ hx)]

end Readable

theorem listPage_last (hscan : IsScan stored (scans i)) (hstored : stored.card ≤ maxSnapshotKeys)
    (hpage : pageSize ≠ 0 ∧ pageSize ≤ 100) {after : Option Uuid}
    (hrest : stored.sort.filter (beyond after) = rest) (hwindow : ¬ (pageSize < rest.length ∧
      ∀ id ∈ rest.take (pageSize + 1), (db.readable now id).isSome = true)) :
    listPage db now scans pageSize i after =
      .ok ((rest.take (pageSize + 1)).filterMap (db.readable now), none) := by
  have hshort := mt length_filterMap_take_iff.mp hwindow
  unfold listPage
  rw [listUsers_eq db now hscan hstored hpage after rfl, hrest, if_neg hshort,
    List.take_of_length_le (not_lt.mp hshort)]
  rfl

theorem listPage_next (listed : ListedAccounts db now stored) (hscan : IsScan stored (scans i))
    (hstored : stored.card ≤ maxSnapshotKeys) (hpage : pageSize ≠ 0 ∧ pageSize ≤ 100)
    {after : Option Uuid} (hrest : stored.sort.filter (beyond after) = rest)
    (hwindow : pageSize < rest.length ∧
      ∀ id ∈ rest.take (pageSize + 1), (db.readable now id).isSome = true) {cursor : Uuid}
    (hcursor : rest[pageSize - 1]? = some cursor) :
    listPage db now scans pageSize i after =
      .ok ((rest.take pageSize).filterMap (db.readable now), some cursor) := by
  have hfull := length_filterMap_take_iff.mpr hwindow
  have hat : (rest.take (pageSize + 1))[pageSize - 1]? = some cursor := by
    rw [List.getElem?_take_of_lt (by omega), hcursor]
  obtain ⟨user, huser⟩ :=
    Option.isSome_iff_exists.mp (hwindow.2 cursor (List.mem_of_getElem? hat))
  have hnext : ((rest.take (pageSize + 1)).filterMap (db.readable now))[pageSize - 1]? =
      some user := by
    rw [getElem?_filterMap hwindow.2, hat, Option.bind_some, huser]
  unfold listPage
  rw [listUsers_eq db now hscan hstored hpage after rfl, hrest, if_pos hfull, hnext,
    take_filterMap hwindow.2, List.take_take, Nat.min_eq_left (Nat.le_succ _),
    ← (listed.readable_id huser).1]
  rfl

variable (listed : ListedAccounts db now stored)

include listed

/-- The pages from a cursor on list what is left exactly if their windows reach it. -/
theorem ListedAccounts.pagesList_iff (hscans : ∀ i, IsScan stored (scans i))
    (hstored : stored.card ≤ maxSnapshotKeys) (hpage : pageSize ≠ 0 ∧ pageSize ≤ 100) (i : Nat)
    (after : Option Uuid) (hrest : stored.sort.filter (beyond after) = rest) :
    PagesList (listPage db now scans pageSize) i after (rest.filterMap (db.readable now)) ↔
      WindowsReach pageSize (db.readable now) rest := by
  -- by induction on what is left to list
  induction hn : rest.length using Nat.strong_induction_on generalizing i after rest with
  | _ m ih =>
    have hsorted : rest.Pairwise (· < ·) := hrest ▸ stored.sortedLT_sort.pairwise.filter _
    have hpos : 0 < pageSize := Nat.pos_of_ne_zero hpage.1
    by_cases hwindow : pageSize < rest.length ∧
        ∀ id ∈ rest.take (pageSize + 1), (db.readable now id).isSome = true
    · -- the window can be read, so the next one starts at its last record
      obtain ⟨cursor, hcursor⟩ : ∃ cursor, rest[pageSize - 1]? = some cursor :=
        ⟨_, List.getElem?_eq_getElem (by omega)⟩
      have hleft : stored.sort.filter (beyond (some cursor)) = rest.drop pageSize := by
        have hmem : cursor ∈ stored.sort.filter (beyond after) := by
          rw [hrest]
          exact List.mem_of_getElem? hcursor
        have hdrop := filter_gt_eq_drop id hsorted hcursor
        rw [Nat.sub_add_cancel hpos] at hdrop
        refine (filter_beyond_cursor _ (List.mem_filter.mp hmem).2).trans ?_
        rw [hrest]
        exact hdrop
      have hsplit : rest.filterMap (db.readable now) =
          (rest.take pageSize).filterMap (db.readable now) ++
            (rest.drop pageSize).filterMap (db.readable now) := by
        rw [← List.filterMap_append, List.take_append_drop]
      have hshorter : (rest.drop pageSize).length < m := by
        rw [List.length_drop]
        omega
      have hnext := listPage_next listed (hscans i) hstored hpage hrest hwindow hcursor
      rw [windowsReach_next hpos hwindow.2, ← ih _ hshorter (i + 1) (some cursor) hleft rfl,
        pagesList_next hnext, hsplit]
      constructor
      · rintro ⟨others, hlisted, hpages⟩
        rw [List.append_cancel_left hlisted]
        exact hpages
      · exact fun hpages => ⟨_, rfl, hpages⟩
    · rw [pagesList_last (listPage_last (hscans i) hstored hpage hrest hwindow),
        windowsReach_last hpos hwindow]
      have hsplit : rest.filterMap (db.readable now) =
          (rest.take (pageSize + 1)).filterMap (db.readable now) ++
            (rest.drop (pageSize + 1)).filterMap (db.readable now) := by
        rw [← List.filterMap_append, List.take_append_drop]
      rw [hsplit, List.append_right_eq_self, List.filterMap_eq_nil_iff]

end Pages

/-! ## The whole listing -/

/-- How many stored ids come before one. -/
def rank (stored : Finset Uuid) (id : Uuid) : Nat := (stored.filter (· < id)).card

theorem rank_eq {id : Uuid} (h : stored.sort[i]? = some id) :
    rank stored id = i := by
  have hset : stored.filter (· < id) = (stored.sort.filter (· < id)).toFinset := by
    ext x
    simp
  have hnodup : (stored.sort.filter (· < id)).Nodup := (stored.sort_nodup _).filter _
  unfold rank
  rw [hset, List.toFinset_card_of_nodup hnodup,
    filter_lt_eq_take stored.sortedLT_sort.pairwise h, List.length_take]
  have hlt := (List.getElem?_eq_some_iff.mp h).1
  omega

theorem windowsReach_iff_rank {n : Nat} {f : Uuid → Option User} :
    WindowsReach n f stored.sort ↔
      ∀ bad ∈ stored, ∀ good ∈ stored, f bad = none → (f good).isSome = true → bad < good →
        rank stored good ≤ ((rank stored bad - 1) / n + 1) * n := by
  have hsorted := stored.sortedLT_sort.pairwise
  constructor
  · intro hreach bad hbad good hgood hnone hsome hlt
    obtain ⟨i, hi⟩ := List.getElem?_of_mem ((Finset.mem_sort (· ≤ ·)).mpr hbad)
    obtain ⟨j, hj⟩ := List.getElem?_of_mem ((Finset.mem_sort (· ≤ ·)).mpr hgood)
    rw [rank_eq hi, rank_eq hj]
    refine hreach i j bad good hi hj ?_ hnone hsome
    by_contra hle
    rcases Nat.eq_or_lt_of_le (not_lt.mp hle) with rfl | hji
    · rw [hi] at hj
      exact absurd (Option.some.inj hj) hlt.ne
    · obtain ⟨hi', rfl⟩ := List.getElem?_eq_some_iff.mp hi
      obtain ⟨hj', rfl⟩ := List.getElem?_eq_some_iff.mp hj
      exact absurd (List.pairwise_iff_getElem.mp hsorted j i hj' hi' hji) hlt.asymm
  · intro h i j bad good hi hj hlt hnone hsome
    have hmem : ∀ {k x}, stored.sort[k]? = some x → x ∈ stored := fun hk =>
      (Finset.mem_sort (· ≤ ·)).mp (List.mem_of_getElem? hk)
    have hless : bad < good := by
      obtain ⟨hi', rfl⟩ := List.getElem?_eq_some_iff.mp hi
      obtain ⟨hj', rfl⟩ := List.getElem?_eq_some_iff.mp hj
      exact List.pairwise_iff_getElem.mp hsorted i j hi' hj' hlt
    have hle := h bad (hmem hi) good (hmem hj) hnone hsome hless
    rw [rank_eq hi, rank_eq hj] at hle
    exact hle

theorem ListedAccounts.pairwise_readable {db : Db} {now : Nat}
    (listed : ListedAccounts db now stored) :
    (stored.sort.filterMap (db.readable now)).Pairwise (User.id · < User.id ·) := by
  refine List.Pairwise.filterMap _ ?_ stored.sortedLT_sort.pairwise
  intro x y hlt user huser user' huser'
  rw [(listed.readable_id huser).1, (listed.readable_id huser').1]
  exact hlt

/-- Following the cursors from the start lists every account that can be read, once and in the
    order of ids, exactly if the namespace is within the limit of a scan and no account lies past
    the window of a record that cannot be read. -/
theorem list_users_complete_iff (db : Db) (now : Nat) (stored : Finset Uuid)
    (listed : ListedAccounts db now stored) (scans : Nat → List (List Uuid))
    (hscans : ∀ i, IsScan stored (scans i)) (pageSize : Nat)
    (hpage : 1 ≤ pageSize ∧ pageSize ≤ 100) :
    (∃ users, PagesList (listPage db now scans pageSize) 0 none users ∧
      (∀ user, user ∈ users ↔ ∃ id ∈ stored, db.readable now id = some user) ∧
      users.Pairwise (User.id · < User.id ·)) ↔
      stored.card ≤ maxSnapshotKeys ∧
        ∀ bad ∈ stored, ∀ good ∈ stored, db.readable now bad = none →
          (db.readable now good).isSome = true → bad < good →
          rank stored good ≤ ((rank stored bad - 1) / pageSize + 1) * pageSize := by
  have hpage' : pageSize ≠ 0 ∧ pageSize ≤ 100 := ⟨by omega, hpage.2⟩
  have hwhole : stored.sort.filter (beyond none) = stored.sort :=
    List.filter_eq_self.mpr fun _ _ => rfl
  have hmem : ∀ user, user ∈ stored.sort.filterMap (db.readable now) ↔
      ∃ id ∈ stored, db.readable now id = some user := by
    intro user
    rw [List.mem_filterMap]
    simp only [Finset.mem_sort]
  by_cases hstored : stored.card ≤ maxSnapshotKeys
  · have hiff := listed.pagesList_iff hscans hstored hpage' 0 none hwhole
    rw [windowsReach_iff_rank] at hiff
    rw [and_iff_right hstored, ← hiff]
    constructor
    · rintro ⟨users, hpages, husers, hsorted⟩
      have heq : users = stored.sort.filterMap (db.readable now) := by
        refine List.Pairwise.eq_of_mem_iff hsorted listed.pairwise_readable fun user => ?_
        rw [husers, hmem]
      rw [← heq]
      exact hpages
    · exact fun hpages => ⟨_, hpages, hmem, listed.pairwise_readable⟩
  · refine iff_of_false ?_ fun h => hstored h.1
    rintro ⟨users, hpages, -⟩
    have herror : listPage db now scans pageSize 0 none =
        .error (.bail "RustyAuth user namespace exceeds the one-million-key safety limit") := by
      unfold listPage listUsers ensure
      rw [(hscans 0).candidateIds_of_many (not_le.mp hstored), if_pos hpage']
      rfl
    exact pagesList_of_error herror hpages

/-- With one account per page the listing goes on to a second page, which is the last. -/
theorem list_users_sample :
    let pages := listPage accountRealm 3 (fun _ => [[2, 3], [1, 2]]) 1
    pages 0 none = .ok ([soundAccount], some 1) ∧
      pages 1 (some 1) = .ok ([secondAccount], none) ∧
      ∃ users, PagesList pages 0 none users ∧
        (∀ user, user ∈ users ↔
          ∃ id ∈ ({1, 2, 3} : Finset Uuid), accountRealm.readable 3 id = some user) ∧
        users.Pairwise (User.id · < User.id ·) :=
  ⟨rfl, rfl, (list_users_complete_iff accountRealm 3 {1, 2, 3} listed_accountRealm _
    (fun _ => isScan_accountRealm) 1 (by decide)).mpr ⟨by decide, by decide +kernel⟩⟩

/-! ### A listing that stops early -/

/-- Three accounts, of which the first cannot be read. -/
def stoppedRealm : Db :=
  commit 3 Keyspace.empty [.set (.user 1) { brokenAccount with id := 1 },
    .set (.user 2) { soundAccount with id := 2 }, .set (.user 3) { soundAccount with id := 3 }]

theorem listed_stoppedRealm : ListedAccounts stoppedRealm 3 {1, 2, 3} :=
  listedAccounts_of_scan (by decide +kernel)

theorem isScan_stoppedRealm : IsScan {1, 2, 3} [[3, 1], [2]] :=
  isScan_of_toFinset (by decide) (by decide)

/-- With one account per page, the first page reads the records 1 and 2, lists the account 2 and
    has no cursor: the account 3 is never listed. -/
theorem list_users_stops :
    ListedAccounts stoppedRealm 3 {1, 2, 3} ∧ IsScan {1, 2, 3} [[3, 1], [2]] ∧
      (stoppedRealm.readable 3 3).isSome = true ∧
      ¬ ∃ users, PagesList (listPage stoppedRealm 3 (fun _ => [[3, 1], [2]]) 1) 0 none users ∧
        ∀ user, user ∈ users ↔
          ∃ id ∈ ({1, 2, 3} : Finset Uuid), stoppedRealm.readable 3 id = some user := by
  refine ⟨listed_stoppedRealm, isScan_stoppedRealm, by decide +kernel, ?_⟩
  rintro ⟨users, hpages, husers⟩
  have hlast : listPage stoppedRealm 3 (fun _ => [[3, 1], [2]]) 1 0 none =
      .ok ([{ soundAccount with id := 2 }], none) := rfl
  rw [pagesList_last hlast] at hpages
  have hmissing : { soundAccount with id := 3 } ∈ users :=
    (husers _).mpr ⟨3, by decide, by decide +kernel⟩
  rw [hpages] at hmissing
  exact absurd hmissing (by decide)

end RustyAuth
