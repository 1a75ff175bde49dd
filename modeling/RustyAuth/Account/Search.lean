/-
  Listing and searching accounts.

  Both read the keys of all accounts by SCAN, in any order, and keep the smallest ids past a
  cursor (`candidateIds_eq`).  A search examines up to a budget of them and hands back the last
  account it examined if it stopped there, so following its cursors finds every account that
  matches (`search_users_complete`); a search by id, identifier or credential is answered by
  the lookup keys instead.
-/
import RustyAuth.Account.Lookups
import RustyAuth.Library.Paging
import RustyAuth.Store.Snapshot
import Mathlib.Data.Finset.Sort
import Mathlib.Data.List.FinRange
import Mathlib.Order.Basic

namespace RustyAuth

open RustyAuth.Library

/-! ## Candidates -/

/-- Identifiers are ordered as their bytes. -/
instance : LinearOrder Uuid :=
  LinearOrder.lift' (fun id => id.bits.toNat) fun x y h => by
    have hbits : x.bits = y.bits := BitVec.eq_of_toNat_eq h
    calc x = ⟨x.bits⟩ := rfl
      _ = ⟨y.bits⟩ := congrArg Uuid.mk hbits

def maxSearchCandidates : Nat := 2000

/-- `accumulate_candidates`; the set is kept in its order. -/
def accumulateCandidates (ids : List Uuid) (after : Option Uuid) (limit : Nat) : List Uuid :=
  ids.foldl (fun kept id => if after.any (id ≤ ·) then kept else keepSmallest limit kept id) []

/-- The loop of `candidate_ids` over the batches that SCAN returns. -/
def candidateLoop (after : Option Uuid) (limit : Nat) :
    List (List Uuid) → List Uuid → Nat → Except AccountError (List Uuid)
  | [], ids, _ => .ok ids
  | batch :: batches, ids, scanned =>
      let scanned := scanned + batch.length
      let ids := accumulateCandidates (ids ++ batch) after limit
      if maxSnapshotKeys < scanned then
        .error (.bail "RustyAuth user namespace exceeds the one-million-key safety limit")
      else candidateLoop after limit batches ids scanned

def candidateIds (scan : List (List Uuid)) (after : Option Uuid) (limit : Nat) :
    Except AccountError (List Uuid) :=
  candidateLoop after limit scan [] 0

/-! ## Pages -/

structure UserSearchPage where
  users : List User
  nextAfter : Option Uuid

/-- An account as a listing reads it: one that is missing or not valid is skipped. -/
def Db.readable (db : Db) (now : Nat) (id : Uuid) : Option User :=
  match db.user now id with
  | .ok found => found
  | .error _ => none

def listUsers (db : Db) (now : Nat) (scan : List (List Uuid)) (after : Option Uuid)
    (pageSize : Nat) : Except AccountError UserSearchPage := do
  ensure (pageSize ≠ 0 ∧ pageSize ≤ 100) (.bail "user list page size must be between 1 and 100")
  let ids ← candidateIds scan after (pageSize + 1)
  let users := ids.filterMap (db.readable now)
  let nextAfter := if pageSize < users.length then users[pageSize - 1]?.map User.id else none
  return ⟨users.take pageSize, nextAfter⟩

structure UserSearch where
  userId : Option Uuid
  identifier : Option IdentifierValue
  passkeyCredentialId : Option String
  passkeyLabel : Option String
  givenName : Option String
  familyName : Option String
  displayName : Option String

namespace UserSearch

def isEmpty (search : UserSearch) : Bool :=
  search.userId.isNone && search.identifier.isNone && search.passkeyCredentialId.isNone &&
    search.passkeyLabel.isNone && search.givenName.isNone && search.familyName.isNone &&
    search.displayName.isNone

def matchesUser (search : UserSearch) (user : User) : Bool :=
  search.userId.all (user.id = ·) &&
    search.identifier.all (fun value => user.identifiers.any fun stored =>
      stored.kind = value.kind ∧ stored.value = value.value) &&
    search.passkeyCredentialId.all (fun value => user.passkeys.any (·.id = value)) &&
    search.passkeyLabel.all (fun value => user.passkeys.any (·.label = value)) &&
    search.givenName.all (user.profile.givenName = some ·) &&
    search.familyName.all (user.profile.familyName = some ·) &&
    search.displayName.all (user.profile.displayName = some ·)

/-- The search is answered by a lookup key. -/
def direct (search : UserSearch) : Bool :=
  search.userId.isSome || search.identifier.isSome || search.passkeyCredentialId.isSome

end UserSearch

def Db.userByCredentialId (db : Db) (now : Nat) (credentialId : String) :
    Except AccountError (Option User) :=
  match db.get now (.credential credentialId) with
  | none => return none
  | some id => db.user now id

/-- The account that the lookup keys give; the first criterion that has one decides. -/
def Db.directUser (db : Db) (now : Nat) (search : UserSearch) :
    Except AccountError (Option User) :=
  match search.userId, search.identifier, search.passkeyCredentialId with
  | some userId, _, _ => db.user now userId
  | none, some identifier, _ => db.userByIdentifier now identifier
  | none, none, some credentialId => db.userByCredentialId now credentialId
  | none, none, none => return none

/-- What the loop of `search_users` has found and examined. -/
structure SearchState where
  users : List User
  examined : Nat
  lastExamined : Option Uuid

def searchLoop (db : Db) (now : Nat) (search : UserSearch) (pageSize : Nat) :
    List Uuid → SearchState → SearchState
  | [], s => s
  | id :: ids, s =>
      if s.examined = maxSearchCandidates then s
      else
        let s := { s with examined := s.examined + 1, lastExamined := some id }
        match db.readable now id with
        | none => searchLoop db now search pageSize ids s
        | some user =>
            if search.matchesUser user then
              let s := { s with users := s.users ++ [user] }
              if pageSize < s.users.length then s else searchLoop db now search pageSize ids s
            else searchLoop db now search pageSize ids s

def searchPageCursor (matched : List User) (pageSize : Nat) (budgetSpent : Bool)
    (lastExamined : Option Uuid) : Option Uuid :=
  if pageSize < matched.length then matched[pageSize - 1]?.map User.id
  else if budgetSpent then lastExamined
  else none

def searchUsers (db : Db) (now : Nat) (scan : List (List Uuid)) (search : UserSearch)
    (after : Option Uuid) (pageSize : Nat) : Except AccountError UserSearchPage := do
  ensure (search.isEmpty = false) (.bail "at least one user search criterion is required")
  ensure (pageSize ≠ 0 ∧ pageSize ≤ 100)
    (.bail "user search page size must be between 1 and 100")
  let direct ← db.directUser now search
  if search.direct then
    let users := direct.toList.filter fun user => after.all (· < user.id)
    return ⟨users.filter search.matchesUser, none⟩
  else
    let ids ← candidateIds scan after maxSearchCandidates
    let s := searchLoop db now search pageSize ids ⟨[], 0, none⟩
    let nextAfter :=
      searchPageCursor s.users pageSize (s.examined = maxSearchCandidates) s.lastExamined
    return ⟨s.users.take pageSize, nextAfter⟩

/-! ## What the scans give -/

theorem accumulateCandidates_eq (ids : List Uuid) (after : Option Uuid) (limit : Nat) :
    accumulateCandidates ids after limit = (orderedSet (ids.filter (beyond after))).take limit := by
  have hskip : ∀ kept, ids.foldl (fun kept id =>
      if after.any (id ≤ ·) then kept else keepSmallest limit kept id) kept =
      (ids.filter (beyond after)).foldl (keepSmallest limit) kept := by
    intro kept
    induction ids generalizing kept with
    | nil => rfl
    | cons id ids ih =>
      have hbeyond : beyond after id = !after.any (id ≤ ·) := by
        cases after with
        | none => rfl
        | some cursor =>
          rw [Bool.eq_iff_iff]
          simp [beyond]
      rw [List.foldl_cons, ih]
      cases hany : after.any (id ≤ ·) with
      | true =>
        rw [if_pos rfl, List.filter_cons_of_neg]
        rw [hbeyond, hany]
        exact Bool.false_ne_true
      | false =>
        rw [if_neg Bool.false_ne_true, List.filter_cons_of_pos, List.foldl_cons]
        rw [hbeyond, hany]
        rfl
  unfold accumulateCandidates
  rw [hskip, keepSmallest_eq]

theorem candidateLoop_eq (after : Option Uuid) (limit : Nat) (batches : List (List Uuid))
    (seen : List Uuid) (scanned : Nat) :
    candidateLoop after limit batches ((orderedSet (seen.filter (beyond after))).take limit)
      scanned =
      if batches ≠ [] ∧ maxSnapshotKeys < scanned + batches.flatten.length then
        .error (.bail "RustyAuth user namespace exceeds the one-million-key safety limit")
      else .ok ((orderedSet ((seen ++ batches.flatten).filter (beyond after))).take limit) := by
  induction batches generalizing seen scanned with
  | nil => simp [candidateLoop]
  | cons batch batches ih =>
    have hkept : accumulateCandidates
        ((orderedSet (seen.filter (beyond after))).take limit ++ batch) after limit =
        (orderedSet ((seen ++ batch).filter (beyond after))).take limit := by
      have hall : ((orderedSet (seen.filter (beyond after))).take limit).filter (beyond after) =
          (orderedSet (seen.filter (beyond after))).take limit := by
        rw [List.filter_eq_self]
        intro id hid
        exact (List.mem_filter.mp (mem_orderedSet.mp (List.mem_of_mem_take hid))).2
      rw [accumulateCandidates_eq, List.filter_append, hall, take_orderedSet_append,
        ← List.filter_append]
    unfold candidateLoop
    dsimp only
    rw [hkept]
    by_cases hmany : maxSnapshotKeys < scanned + batch.length
    · rw [if_pos hmany, if_pos]
      refine ⟨List.cons_ne_nil _ _, ?_⟩
      rw [List.flatten_cons, List.length_append]
      omega
    · rw [if_neg hmany, ih, List.flatten_cons, List.length_append, List.append_assoc]
      congr 1
      apply propext
      constructor
      · rintro ⟨-, hlt⟩
        exact ⟨List.cons_ne_nil _ _, by omega⟩
      · rintro ⟨-, hlt⟩
        refine ⟨?_, by omega⟩
        rintro rfl
        simp at hlt
        omega

theorem candidateIds_flat (scan : List (List Uuid)) (after : Option Uuid) (limit : Nat) :
    candidateIds scan after limit =
      if scan ≠ [] ∧ maxSnapshotKeys < scan.flatten.length then
        .error (.bail "RustyAuth user namespace exceeds the one-million-key safety limit")
      else .ok ((orderedSet (scan.flatten.filter (beyond after))).take limit) := by
  have hloop := candidateLoop_eq after limit scan [] 0
  have hnone : (orderedSet (([] : List Uuid).filter (beyond after))).take limit = [] :=
    List.take_nil
  rw [hnone, Nat.zero_add, List.nil_append] at hloop
  exact hloop

/-- A scan of a namespace that does not change: every stored key at least once, and no more keys
    than the limit unless so many are stored. -/
structure IsScan (stored : Finset Uuid) (scan : List (List Uuid)) : Prop where
  lists : ∀ id, id ∈ scan.flatten ↔ id ∈ stored
  bounded : stored.card ≤ maxSnapshotKeys → scan.flatten.length ≤ maxSnapshotKeys

namespace IsScan

variable {stored : Finset Uuid} {scan : List (List Uuid)} (h : IsScan stored scan)

include h

theorem orderedSet_eq : orderedSet scan.flatten = stored.sort := by
  refine (eq_orderedSet stored.sortedLT_sort.pairwise fun id => ?_).symm
  rw [Finset.mem_sort, h.lists]

theorem candidateIds_eq (hstored : stored.card ≤ maxSnapshotKeys) (after : Option Uuid)
    (limit : Nat) :
    candidateIds scan after limit = .ok ((stored.sort.filter (beyond after)).take limit) := by
  have hfew : ¬ (scan ≠ [] ∧ maxSnapshotKeys < scan.flatten.length) := by
    have hbounded := h.bounded hstored
    omega
  rw [candidateIds_flat, if_neg hfew, filter_orderedSet, h.orderedSet_eq]

theorem candidateIds_of_many (hstored : maxSnapshotKeys < stored.card) (after : Option Uuid)
    (limit : Nat) : candidateIds scan after limit =
      .error (.bail "RustyAuth user namespace exceeds the one-million-key safety limit") := by
  have hcard : stored.card ≤ scan.flatten.length := by
    have hsub : stored ⊆ scan.flatten.toFinset := fun id hid =>
      List.mem_toFinset.mpr ((h.lists id).mpr hid)
    exact (Finset.card_le_card hsub).trans (List.toFinset_card_le _)
  have hmany : scan ≠ [] ∧ maxSnapshotKeys < scan.flatten.length := by
    refine ⟨?_, by omega⟩
    rintro rfl
    rw [List.flatten_nil, List.length_nil] at hcard
    omega
  exact (candidateIds_flat scan after limit).trans (if_pos hmany)

end IsScan

variable {user : User} {id : Uuid}

theorem normalizeAndValidate_id {valid : User} (h : user.normalizeAndValidate = .ok valid) :
    valid.id = user.id := by
  obtain ⟨-, rfl⟩ := normalizeAndValidate_eq_ok.mp h
  unfold User.syncLegacyEmail User.hydrated
  split <;> split <;> rfl

/-- The records during a listing: those that can be read are stored, under their own id. -/
structure ListedAccounts (db : Db) (now : Nat) (stored : Finset Uuid) : Prop where
  listed : ∀ id user, db.get now (.user id) = some user → id ∈ stored
  own : ∀ id user, db.get now (.user id) = some user → user.id = id

namespace ListedAccounts

variable {db : Db} {now : Nat} {stored : Finset Uuid} (h : ListedAccounts db now stored)

include h

theorem readable_id (hread : db.readable now id = some user) :
    user.id = id ∧ id ∈ stored := by
  unfold Db.readable Db.user at hread
  cases hget : db.get now (.user id) with
  | none =>
    rw [hget] at hread
    cases hread
  | some record =>
    rw [hget] at hread
    refine ⟨?_, h.listed id record hget⟩
    cases hvalid : record.normalizeAndValidate with
    | error e =>
      dsimp only at hread
      rw [hvalid] at hread
      cases hread
    | ok valid =>
      dsimp only at hread
      rw [hvalid] at hread
      obtain rfl := Option.some.inj hread
      rw [← h.own id record hget]
      exact normalizeAndValidate_id hvalid

end ListedAccounts

/-! ## Searching by scans -/

/-- What a search lists of an account. -/
def found (db : Db) (now : Nat) (search : UserSearch) (id : Uuid) : Option User :=
  (db.readable now id).filter search.matchesUser

section Loop

variable (db : Db) (now : Nat) (search : UserSearch) (pageSize : Nat)

theorem searchLoop_cons (id : Uuid) (ids : List Uuid) (s : SearchState)
    (hbudget : s.examined ≠ maxSearchCandidates) (hpage : s.users.length ≤ pageSize) :
    searchLoop db now search pageSize (id :: ids) s =
      let s' : SearchState :=
        ⟨s.users ++ (found db now search id).toList, s.examined + 1, some id⟩
      if pageSize < s'.users.length then s' else searchLoop db now search pageSize ids s' := by
  rw [searchLoop, if_neg hbudget]
  dsimp only
  unfold found
  cases hread : db.readable now id with
  | none =>
    simp only [Option.filter_none, Option.toList_none, List.append_nil, if_neg (not_lt.mpr hpage)]
  | some user =>
    dsimp only
    by_cases hmatch : search.matchesUser user = true
    · rw [if_pos hmatch, Option.filter_some_pos hmatch, Option.toList_some]
    · simp only [if_neg hmatch, Option.filter_some_neg (Bool.eq_false_iff.mpr hmatch),
        Option.toList_none, List.append_nil, if_neg (not_lt.mpr hpage)]

/-- How the loop may end: at the match after the last of the page, or with all candidates
    examined. -/
def LoopEnd (ids : List Uuid) (s r : SearchState) : Prop :=
  (∃ i id, ids[i]? = some id ∧
    s.users.length + ((ids.take i).filterMap (found db now search)).length = pageSize ∧
    (found db now search id).isSome = true ∧
    r.users = s.users ++ (ids.take (i + 1)).filterMap (found db now search)) ∨
  (s.users.length + (ids.filterMap (found db now search)).length ≤ pageSize ∧
    r = ⟨s.users ++ ids.filterMap (found db now search), s.examined + ids.length,
      ids.getLast?.or s.lastExamined⟩)

theorem filterMap_found_cons (id : Uuid) (ids : List Uuid) :
    (id :: ids).filterMap (found db now search) =
      (found db now search id).toList ++ ids.filterMap (found db now search) := by
  rw [List.filterMap_cons]
  cases found db now search id <;> rfl

theorem LoopEnd.cons {ids : List Uuid} {s r : SearchState} (h : LoopEnd db now search pageSize ids
      ⟨s.users ++ (found db now search id).toList, s.examined + 1, some id⟩ r) :
    LoopEnd db now search pageSize (id :: ids) s r := by
  rcases h with ⟨i, last, hget, hcount, hsome, husers⟩ | ⟨hcount, hr⟩
  · refine Or.inl ⟨i + 1, last, hget, ?_, hsome, ?_⟩
    · rw [List.take_succ_cons, filterMap_found_cons, List.length_append, ← Nat.add_assoc,
        ← List.length_append]
      exact hcount
    · rw [List.take_succ_cons, filterMap_found_cons, ← List.append_assoc]
      exact husers
  · refine Or.inr ⟨?_, ?_⟩
    · rw [filterMap_found_cons, List.length_append, ← Nat.add_assoc, ← List.length_append]
      exact hcount
    · have hexamined : s.examined + 1 + ids.length = s.examined + (id :: ids).length := by
        rw [List.length_cons]
        omega
      have hlast : ids.getLast?.or (some id) = (id :: ids).getLast?.or s.lastExamined := by
        rw [List.getLast?_cons]
        cases ids.getLast? <;> rfl
      rw [hr, filterMap_found_cons, ← List.append_assoc, ← hexamined, ← hlast]

theorem searchLoop_end (ids : List Uuid) (s : SearchState)
    (hbudget : s.examined + ids.length ≤ maxSearchCandidates) (hpage : s.users.length ≤ pageSize) :
    LoopEnd db now search pageSize ids s (searchLoop db now search pageSize ids s) := by
  induction ids generalizing s with
  | nil => exact Or.inr ⟨hpage, by simp [searchLoop]⟩
  | cons id ids ih =>
    rw [List.length_cons] at hbudget
    rw [searchLoop_cons db now search pageSize id ids s (by omega) hpage]
    dsimp only
    by_cases hfull : pageSize < (s.users ++ (found db now search id).toList).length
    · -- the page had its last match already, so this one is past it
      rw [if_pos hfull]
      refine Or.inl ⟨0, id, rfl, ?_, ?_, ?_⟩
      · rw [List.length_append] at hfull
        have hone : (found db now search id).toList.length ≤ 1 := Option.length_toList_le
        rw [List.take_zero, List.filterMap_nil, List.length_nil]
        omega
      · rw [List.length_append] at hfull
        cases hfound : found db now search id with
        | none =>
          rw [hfound, Option.toList_none, List.length_nil] at hfull
          omega
        | some user => rfl
      · rw [List.take_succ_cons, List.take_zero, filterMap_found_cons, List.filterMap_nil,
          List.append_nil]
    · rw [if_neg hfull]
      exact LoopEnd.cons db now search pageSize
        (ih _ (by dsimp only; omega) (by dsimp only; omega))

end Loop

/-- The pages of a search, each with a scan of its own. -/
def searchPage (db : Db) (now : Nat) (scans : Nat → List (List Uuid)) (search : UserSearch)
    (pageSize i : Nat) (after : Option Uuid) : Except AccountError (List User × Option Uuid) :=
  (searchUsers db now (scans i) search after pageSize).map fun page => (page.users, page.nextAfter)

/-- Following the cursors from the start lists the accounts that can be read and match, once each
    and in the order of their ids. -/
def FindsMatching (db : Db) (now : Nat) (stored : Finset Uuid) (search : UserSearch)
    (pages : Nat → Option Uuid → Except AccountError (List User × Option Uuid)) : Prop :=
  ∃ users, PagesList pages 0 none users ∧
    (∀ user, user ∈ users ↔
      ∃ id ∈ stored, db.readable now id = some user ∧ search.matchesUser user = true) ∧
    users.Pairwise (User.id · < User.id ·)

section Scanned

variable {db : Db} {now : Nat} {stored : Finset Uuid} {search : UserSearch} {pageSize : Nat}
  (listed : ListedAccounts db now stored)

include listed

theorem ListedAccounts.found_id (h : found db now search id = some user) :
    user.id = id ∧ id ∈ stored :=
  listed.readable_id (Option.filter_eq_some_iff.mp h).1

theorem ListedAccounts.pairwise_found (search : UserSearch) {ids : List Uuid} (h : ids.Pairwise (· < ·)) :
    (ids.filterMap (found db now search)).Pairwise (User.id · < User.id ·) := by
  refine List.Pairwise.filterMap _ ?_ h
  intro x y hlt user huser user' huser'
  rw [(listed.found_id huser).1, (listed.found_id huser').1]
  exact hlt

theorem ListedAccounts.filterMap_filter (ids : List Uuid) (cursor : Uuid) :
    (ids.filter (· ≤ cursor)).filterMap (found db now search) =
      (ids.filterMap (found db now search)).filter (User.id · ≤ cursor) := by
  induction ids with
  | nil => rfl
  | cons id ids ih =>
    rw [filterMap_found_cons, List.filter_append, ← ih]
    cases hfound : found db now search id with
    | none =>
      by_cases hle : id ≤ cursor
      · rw [List.filter_cons_of_pos (by simpa using hle), filterMap_found_cons, hfound]
        rfl
      · rw [List.filter_cons_of_neg (by simpa using hle)]
        rfl
    | some user =>
      have hid := (listed.found_id hfound).1
      by_cases hle : id ≤ cursor
      · rw [List.filter_cons_of_pos (by simpa using hle), filterMap_found_cons, hfound,
          Option.toList_some, List.filter_cons_of_pos (by simpa [hid] using hle)]
        rfl
      · rw [List.filter_cons_of_neg (by simpa using hle), Option.toList_some,
          List.filter_cons_of_neg (by simpa [hid] using hle)]
        rfl

omit listed in
theorem directUser_of_scanned (h : search.direct = false) :
    db.directUser now search = .ok none := by
  unfold UserSearch.direct at h
  simp only [Bool.or_eq_false_iff, Option.isSome_eq_false_iff, Option.isNone_iff_eq_none] at h
  unfold Db.directUser
  rw [h.1.1, h.1.2, h.2]
  rfl

omit listed in
/-- A page of a search that no lookup key answers. -/
theorem searchUsers_scanned (db : Db) (now : Nat) {scan : List (List Uuid)}
    (hscan : IsScan stored scan)
    (hstored : stored.card ≤ maxSnapshotKeys) (hsearch : search.isEmpty = false)
    (hscanned : search.direct = false) (hpage : pageSize ≠ 0 ∧ pageSize ≤ 100)
    (after : Option Uuid) {r : SearchState}
    (hr : searchLoop db now search pageSize
      ((stored.sort.filter (beyond after)).take maxSearchCandidates) ⟨[], 0, none⟩ = r) :
    searchUsers db now scan search after pageSize = .ok ⟨r.users.take pageSize,
      searchPageCursor r.users pageSize (r.examined = maxSearchCandidates) r.lastExamined⟩ := by
  unfold searchUsers
  simp only [ensure_eq_ok, bind_eq_ok]
  refine ⟨(), hsearch, (), hpage, none, directUser_of_scanned hscanned, ?_⟩
  rw [hscanned, if_neg Bool.false_ne_true, hscan.candidateIds_eq hstored]
  refine (bind_eq_ok _ _ _).mpr ⟨_, rfl, ?_⟩
  rw [hr]
  rfl

/-- A page with one match more than it holds: its cursor is the last match on it. -/
theorem ListedAccounts.goodPage_of_full {rest : List Uuid} (hsorted : rest.Pairwise (· < ·))
    {users : List User} (hinitial : users <+: rest.filterMap (found db now search))
    (hlength : users.length = pageSize + 1) (hpage : pageSize ≠ 0) (spent : Bool)
    (last : Option Uuid) :
    ∃ cursor ∈ rest, searchPageCursor users pageSize spent last = some cursor ∧
      users.take pageSize = (rest.filter (· ≤ cursor)).filterMap (found db now search) := by
  obtain ⟨user, huser⟩ : ∃ user, users[pageSize - 1]? = some user :=
    ⟨_, List.getElem?_eq_getElem (by omega)⟩
  have htake : users.take pageSize = (rest.filterMap (found db now search)).take pageSize := by
    rw [List.prefix_iff_eq_take.mp hinitial, List.take_take, Nat.min_eq_left (by omega)]
  have hmatch : (rest.filterMap (found db now search))[pageSize - 1]? = some user := by
    have h := huser
    rw [List.prefix_iff_eq_take.mp hinitial, List.getElem?_take_of_lt (by omega)] at h
    exact h
  obtain ⟨x, hx, hfound⟩ := List.mem_filterMap.mp (List.mem_of_getElem? hmatch)
  obtain rfl := (listed.found_id hfound).1
  have hupto := filter_le_eq_take User.id (listed.pairwise_found search hsorted) hmatch
  rw [Nat.sub_add_cancel (Nat.one_le_iff_ne_zero.mpr hpage)] at hupto
  refine ⟨user.id, hx, ?_, ?_⟩
  · unfold searchPageCursor
    rw [if_pos (by omega), huser]
    rfl
  · rw [htake, listed.filterMap_filter, hupto]

omit listed in
/-- A page on which the budget is spent: its cursor is the last account examined. -/
theorem exists_lastExamined {rest : List Uuid} (hsorted : rest.Pairwise (· < ·))
    (hspent : maxSearchCandidates ≤ rest.length) :
    ∃ cursor ∈ rest, (rest.take maxSearchCandidates).getLast? = some cursor ∧
      rest.filter (· ≤ cursor) = rest.take maxSearchCandidates := by
  have hpos : 0 < maxSearchCandidates := by decide
  obtain ⟨last, hlast⟩ : ∃ last, rest[maxSearchCandidates - 1]? = some last :=
    ⟨_, List.getElem?_eq_getElem (by omega)⟩
  refine ⟨last, List.mem_of_getElem? hlast, ?_, filter_le_eq_take id hsorted hlast⟩
  rw [List.getLast?_eq_getElem?, List.length_take, Nat.min_eq_left hspent,
    List.getElem?_take_of_lt (by decide), hlast]

theorem ListedAccounts.goodPage {scan : List (List Uuid)} (hscan : IsScan stored scan)
    (hstored : stored.card ≤ maxSnapshotKeys) (hsearch : search.isEmpty = false)
    (hscanned : search.direct = false) (hpage : pageSize ≠ 0 ∧ pageSize ≤ 100)
    (after : Option Uuid) :
    GoodPage stored.sort (found db now search) after
      ((searchUsers db now scan search after pageSize).map fun page =>
        (page.users, page.nextAfter)) := by
  have hsorted : (stored.sort.filter (beyond after)).Pairwise (· < ·) :=
    stored.sortedLT_sort.pairwise.filter _
  have hresult := searchUsers_scanned db now hscan hstored hsearch hscanned hpage after rfl
  have hend := searchLoop_end db now search pageSize
    ((stored.sort.filter (beyond after)).take maxSearchCandidates) ⟨[], 0, none⟩ (by simp)
    (Nat.zero_le _)
  generalize searchLoop db now search pageSize
    ((stored.sort.filter (beyond after)).take maxSearchCandidates) ⟨[], 0, none⟩ = r at hresult hend
  rw [hresult]
  unfold GoodPage
  generalize stored.sort.filter (beyond after) = rest at *
  rcases hend with ⟨i, id, hget, hcount, hsome, husers⟩ | ⟨hcount, hr⟩
  · rw [List.nil_append] at husers
    rw [List.length_nil, Nat.zero_add] at hcount
    have hinitial : r.users <+: rest.filterMap (found db now search) := by
      rw [husers]
      exact ((List.take_prefix _ _).trans (List.take_prefix _ _)).filterMap _
    have hlength : r.users.length = pageSize + 1 := by
      obtain ⟨user, huser⟩ := Option.isSome_iff_exists.mp hsome
      rw [husers, List.take_add_one, hget, List.filterMap_append, List.length_append, hcount,
        Option.toList_some, List.filterMap_cons_some huser, List.filterMap_nil]
      rfl
    obtain ⟨cursor, hcursor, hnext, hlisted⟩ := listed.goodPage_of_full hsorted hinitial hlength
      hpage.1 (r.examined = maxSearchCandidates) r.lastExamined
    refine Or.inr ⟨cursor, hcursor, ?_⟩
    rw [← hlisted, ← hnext]
    rfl
  · rw [List.length_nil, Nat.zero_add] at hcount
    rw [List.nil_append, Nat.zero_add, Option.or_none] at hr
    have hall : r.users.take pageSize = (rest.take maxSearchCandidates).filterMap
        (found db now search) := by
      rw [hr]
      exact List.take_of_length_le hcount
    have hshort : ¬ pageSize < r.users.length := by
      rw [hr]
      exact not_lt.mpr hcount
    by_cases hspent : maxSearchCandidates ≤ rest.length
    · obtain ⟨cursor, hcursor, hlast, hupto⟩ := exists_lastExamined hsorted hspent
      have hnext : searchPageCursor r.users pageSize (r.examined = maxSearchCandidates)
          r.lastExamined = some cursor := by
        unfold searchPageCursor
        rw [if_neg hshort, hr, hlast, List.length_take, Nat.min_eq_left hspent]
        simp
      refine Or.inr ⟨cursor, hcursor, ?_⟩
      rw [hall, hnext, hupto]
      rfl
    · have hwhole : rest.take maxSearchCandidates = rest := List.take_of_length_le (by omega)
      have hnext : searchPageCursor r.users pageSize (r.examined = maxSearchCandidates)
          r.lastExamined = none := by
        unfold searchPageCursor
        rw [if_neg hshort, hr, hwhole, if_neg]
        simp only [decide_eq_true_eq]
        omega
      refine Or.inl ?_
      rw [hall, hnext, hwhole]
      rfl

/-- The pages of a search that no lookup key answers. -/
theorem ListedAccounts.search_scanned {scans : Nat → List (List Uuid)}
    (hscans : ∀ i, IsScan stored (scans i)) (hstored : stored.card ≤ maxSnapshotKeys)
    (hsearch : search.isEmpty = false) (hscanned : search.direct = false)
    (hpage : pageSize ≠ 0 ∧ pageSize ≤ 100) :
    FindsMatching db now stored search (searchPage db now scans search pageSize) := by
  have hall := pagesList_all stored.sortedLT_sort.pairwise
    (fun i after => listed.goodPage (hscans i) hstored hsearch hscanned hpage after) 0 none
  have hwhole : stored.sort.filter (beyond none) = stored.sort :=
    List.filter_eq_self.mpr fun _ _ => rfl
  rw [hwhole] at hall
  refine ⟨_, hall, fun user => ?_, listed.pairwise_found search stored.sortedLT_sort.pairwise⟩
  simp only [List.mem_filterMap, Finset.mem_sort, found, Option.filter_eq_some_iff]

end Scanned

/-! ## Searching by lookup keys -/

/-- The lookup keys lead to the accounts that can be read. -/
structure IndexesAgree (db : Db) (now : Nat) : Prop where
  identifiers : ∀ id user, db.readable now id = some user → ∀ identifier ∈ user.identifiers,
    (db.get now (.identifier identifier.kind identifier.value)).or
      (if identifier.kind = .email then db.get now (.email identifier.value) else none) = some id
  credentials : ∀ id user, db.readable now id = some user → ∀ passkey ∈ user.passkeys,
    db.get now (.credential passkey.id) = some id

theorem user_of_readable {db : Db} {now : Nat} (h : db.readable now id = some user) :
    db.user now id = .ok (some user) := by
  unfold Db.readable at h
  split at h
  · next found hfound => rw [hfound, h]
  · cases h

theorem readable_of_user {db : Db} {now : Nat} (h : db.user now id = .ok (some user)) :
    db.readable now id = some user := by
  unfold Db.readable
  rw [h]

section Direct

variable {db : Db} {now : Nat} {stored : Finset Uuid} {search : UserSearch}

theorem readable_of_directUser (h : db.directUser now search = .ok (some user)) :
    ∃ id, db.readable now id = some user := by
  unfold Db.directUser at h
  split at h
  · exact ⟨_, readable_of_user h⟩
  · unfold Db.userByIdentifier at h
    dsimp only at h
    split at h
    · cases h
    · exact ⟨_, readable_of_user h⟩
  · unfold Db.userByCredentialId at h
    split at h
    · cases h
    · exact ⟨_, readable_of_user h⟩
  · cases h

/-- An account that matches is the one that the lookup gives. -/
theorem directUser_of_matches (listed : ListedAccounts db now stored) (agree : IndexesAgree db now)
    (hdirect : search.direct = true) (hread : db.readable now id = some user)
    (hmatch : search.matchesUser user = true) :
    db.directUser now search = .ok (some user) := by
  have huser := user_of_readable hread
  unfold UserSearch.matchesUser at hmatch
  simp only [Bool.and_eq_true] at hmatch
  obtain ⟨⟨⟨⟨⟨⟨hid, hidentifier⟩, hcredential⟩, -⟩, -⟩, -⟩, -⟩ := hmatch
  unfold Db.directUser
  cases huserId : search.userId with
  | some userId =>
    rw [huserId] at hid
    have heq : user.id = userId := by simpa using hid
    dsimp only
    rw [← heq, (listed.readable_id hread).1]
    exact huser
  | none =>
    cases hname : search.identifier with
    | some identifier =>
      rw [hname] at hidentifier
      simp only [Option.all_some, List.any_eq_true, decide_eq_true_eq] at hidentifier
      obtain ⟨held, hheld, hkind, hvalue⟩ := hidentifier
      have hlookup := agree.identifiers id user hread held hheld
      dsimp only
      unfold Db.userByIdentifier
      rw [← hkind, ← hvalue, hlookup]
      exact huser
    | none =>
      cases hkey : search.passkeyCredentialId with
      | some credentialId =>
        rw [hkey] at hcredential
        simp only [Option.all_some, List.any_eq_true, decide_eq_true_eq] at hcredential
        obtain ⟨passkey, hpasskey, rfl⟩ := hcredential
        dsimp only
        unfold Db.userByCredentialId
        rw [agree.credentials id user hread passkey hpasskey]
        exact huser
      | none =>
        unfold UserSearch.direct at hdirect
        rw [huserId, hname, hkey] at hdirect
        cases hdirect

/-- The one page of a search that a lookup key answers. -/
theorem ListedAccounts.search_direct (listed : ListedAccounts db now stored)
    (agree : IndexesAgree db now) (scans : Nat → List (List Uuid)) {pageSize : Nat}
    (hsearch : search.isEmpty = false) (hdirect : search.direct = true)
    (hpage : pageSize ≠ 0 ∧ pageSize ≤ 100) {account : Option User}
    (haccount : db.directUser now search = .ok account) :
    FindsMatching db now stored search (searchPage db now scans search pageSize) := by
  have hlast : searchPage db now scans search pageSize 0 none =
      .ok (account.toList.filter search.matchesUser, none) := by
    have hsearched : searchUsers db now (scans 0) search none pageSize =
        .ok ⟨account.toList.filter search.matchesUser, none⟩ := by
      unfold searchUsers
      simp only [ensure_eq_ok, bind_eq_ok]
      refine ⟨(), hsearch, (), hpage, account, haccount, ?_⟩
      rw [hdirect, if_pos rfl]
      simp
    unfold searchPage
    rw [hsearched]
    rfl
  refine ⟨_, (pagesList_last hlast).mpr rfl, fun user => ?_, ?_⟩
  · rw [List.mem_filter, Option.mem_toList]
    constructor
    · rintro ⟨rfl, hmatch⟩
      obtain ⟨id, hread⟩ := readable_of_directUser haccount
      exact ⟨id, (listed.readable_id hread).2, hread, hmatch⟩
    · rintro ⟨id, -, hread, hmatch⟩
      have hlookup := directUser_of_matches listed agree hdirect hread hmatch
      rw [haccount] at hlookup
      exact ⟨Except.ok.inj hlookup, hmatch⟩
  · cases account with
    | none => exact List.Pairwise.nil
    | some user => exact (List.pairwise_singleton _ _).filter _

end Direct

/-- The lookup of an account that cannot be read fails, and the search with it. -/
theorem searchUsers_of_directUser {db : Db} {now : Nat} {search : UserSearch} {pageSize : Nat}
    (hsearch : search.isEmpty = false) (hpage : pageSize ≠ 0 ∧ pageSize ≤ 100) {e : AccountError}
    (h : db.directUser now search = .error e) (scan : List (List Uuid)) (after : Option Uuid) :
    searchUsers db now scan search after pageSize = .error e := by
  unfold searchUsers ensure
  rw [if_pos hsearch, if_pos hpage, h]
  rfl

/-- A scan of a namespace above the limit fails, and a search that no lookup key answers with it. -/
theorem searchUsers_of_many {db : Db} {now : Nat} {stored : Finset Uuid} {search : UserSearch}
    {pageSize : Nat} {scan : List (List Uuid)} (hscan : IsScan stored scan)
    (hsearch : search.isEmpty = false) (hpage : pageSize ≠ 0 ∧ pageSize ≤ 100)
    (hscanned : search.direct = false) (hstored : maxSnapshotKeys < stored.card)
    (after : Option Uuid) :
    searchUsers db now scan search after pageSize =
      .error (.bail "RustyAuth user namespace exceeds the one-million-key safety limit") := by
  unfold searchUsers ensure
  rw [if_pos hsearch, if_pos hpage, directUser_of_scanned hscanned, hscanned,
    hscan.candidateIds_of_many hstored]
  rfl

/-- A search finds every account that can be read and matches; with a lookup key, if the keys agree
    with the accounts and the account that is looked up is not unreadable, without one, if the
    namespace is within the limit of a scan.  Every page fails with the error of the account that is
    looked up and cannot be read, and every page without a lookup key fails above the limit. -/
theorem search_users_complete (db : Db) (now : Nat) (stored : Finset Uuid)
    (listed : ListedAccounts db now stored) (scans : Nat → List (List Uuid))
    (hscans : ∀ i, IsScan stored (scans i)) (search : UserSearch) (hsearch : search.isEmpty = false)
    (pageSize : Nat) (hpage : 1 ≤ pageSize ∧ pageSize ≤ 100) :
    ((search.direct = true →
        IndexesAgree db now ∧ ∃ account, db.directUser now search = .ok account) →
      (search.direct = false → stored.card ≤ maxSnapshotKeys) →
      FindsMatching db now stored search (searchPage db now scans search pageSize)) ∧
    (∀ e, db.directUser now search = .error e →
      ∀ i after, searchPage db now scans search pageSize i after = .error e) ∧
    (search.direct = false → maxSnapshotKeys < stored.card →
      ∀ i after, searchPage db now scans search pageSize i after =
        .error (.bail "RustyAuth user namespace exceeds the one-million-key safety limit")) := by
  have hpage' : pageSize ≠ 0 ∧ pageSize ≤ 100 := ⟨by omega, hpage.2⟩
  refine ⟨fun hdirect hscanned => ?_, fun e he i after => ?_, fun hscanned hmany i after => ?_⟩
  · cases hkind : search.direct with
    | false => exact listed.search_scanned hscans (hscanned hkind) hsearch hkind hpage'
    | true =>
      obtain ⟨agree, account, haccount⟩ := hdirect hkind
      exact listed.search_direct agree scans hsearch hkind hpage' haccount
  · unfold searchPage
    rw [searchUsers_of_directUser hsearch hpage' he]
    rfl
  · unfold searchPage
    rw [searchUsers_of_many (hscans i) hsearch hpage' hscanned hmany]
    rfl

/-! ### A sample -/

def soundAccount : User where
  id := 1
  email := "ada@example.com"
  emailVerified := true
  profile := ⟨none, none, none⟩
  identifiers := [⟨.email, "ada@example.com", true, none, true, 3⟩]
  sessionVersion := 1
  recoveryCodes := []
  createdAt := 3
  passkeys := [⟨"cred-1", "Phone", 0, 3, none, "key-1"⟩]

def secondAccount : User :=
  { soundAccount with
    id := 2
    email := "bob@example.com"
    identifiers := [⟨.email, "bob@example.com", true, none, true, 3⟩]
    passkeys := [⟨"cred-2", "Phone", 0, 3, none, "key-2"⟩] }

/-- An account without identifiers, which is refused when it is read. -/
def brokenAccount : User :=
  { soundAccount with id := 3, email := "", identifiers := [], passkeys := [] }

def accountRealm : Db :=
  commit 3 Keyspace.empty [.set (.user 1) soundAccount, .set (.user 2) secondAccount,
    .set (.user 3) brokenAccount, .set (.email "ada@example.com") 1,
    .set (.identifier .email "ada@example.com") 1, .set (.email "bob@example.com") 2,
    .set (.identifier .email "bob@example.com") 2, .set (.credential "cred-1") 1,
    .set (.credential "cred-2") 2]

theorem listedAccounts_of_scan {db : Db} {now : Nat} {stored : Finset Uuid}
    (h : ((db.scan now).all fun
      | ⟨.user id, user⟩ => decide (id ∈ stored ∧ User.id user = id)
      | _ => true) = true) : ListedAccounts db now stored := by
  have hget : ∀ id user, db.get now (.user id) = some user → id ∈ stored ∧ user.id = id := by
    intro id user hread
    have hmem := (Keyspace.mem_scan db now (.user id) user).mpr hread
    exact of_decide_eq_true (List.all_eq_true.mp h _ hmem)
  exact ⟨fun id user hread => (hget id user hread).1, fun id user hread => (hget id user hread).2⟩

theorem isScan_of_toFinset {stored : Finset Uuid} {scan : List (List Uuid)}
    (h : scan.flatten.toFinset = stored) (hfew : scan.flatten.length ≤ maxSnapshotKeys) :
    IsScan stored scan := by
  subst h
  exact ⟨fun id => List.mem_toFinset.symm, fun _ => hfew⟩

theorem listed_accountRealm : ListedAccounts accountRealm 3 {1, 2, 3} :=
  listedAccounts_of_scan (by decide +kernel)

theorem isScan_accountRealm : IsScan {1, 2, 3} [[2, 3], [1, 2]] :=
  isScan_of_toFinset (by decide) (by decide)

theorem indexesAgree_accountRealm : IndexesAgree accountRealm 3 := by
  have hindexes : ∀ id ∈ ({1, 2, 3} : Finset Uuid), ∀ user ∈ accountRealm.readable 3 id,
      (∀ identifier ∈ user.identifiers,
        (accountRealm.get 3 (.identifier identifier.kind identifier.value)).or
          (if identifier.kind = .email then accountRealm.get 3 (.email identifier.value)
            else none) = some id) ∧
      ∀ passkey ∈ user.passkeys, accountRealm.get 3 (.credential passkey.id) = some id := by
    decide +kernel
  have hall := fun id user (h : accountRealm.readable 3 id = some user) =>
    hindexes id (listed_accountRealm.readable_id h).2 user h
  exact ⟨fun id user h => (hall id user h).1, fun id user h => (hall id user h).2⟩

/-- A search by a passkey's label, and one by a passkey's credential. -/
def labelSearch : UserSearch := ⟨none, none, none, some "Phone", none, none, none⟩

def credentialSearch : UserSearch := ⟨none, none, some "cred-2", none, none, none, none⟩

/-- With one account per page the search by the label goes on to a second page; the search by the
    credential is answered by its lookup key. -/
theorem search_users_sample :
    let pages search := searchPage accountRealm 3 (fun _ => [[2, 3], [1, 2]]) search 1
    pages labelSearch 0 none = .ok ([soundAccount], some 1) ∧
      pages labelSearch 1 (some 1) = .ok ([secondAccount], none) ∧
      credentialSearch.direct = true ∧ ∀ search ∈ [labelSearch, credentialSearch],
        FindsMatching accountRealm 3 {1, 2, 3} search (pages search) := by
  refine ⟨rfl, rfl, rfl, ?_⟩
  simp only [List.forall_mem_cons]
  refine ⟨?_, ?_, List.forall_mem_nil _⟩
  · exact (search_users_complete accountRealm 3 {1, 2, 3} listed_accountRealm _
      (fun _ => isScan_accountRealm) labelSearch rfl 1 (by decide)).1 (fun h => by cases h)
      (fun _ => by decide)
  · exact (search_users_complete accountRealm 3 {1, 2, 3} listed_accountRealm _
      (fun _ => isScan_accountRealm) credentialSearch rfl 1 (by decide)).1
      (fun _ => ⟨indexesAgree_accountRealm, some secondAccount, rfl⟩) (fun h => by cases h)

/-- The search for an account by its id fails if the account cannot be read, although the lookup
    keys agree with the accounts. -/
theorem search_users_fails :
    ListedAccounts accountRealm 3 {1, 2, 3} ∧ IndexesAgree accountRealm 3 ∧
      IsScan {1, 2, 3} [[2, 3], [1, 2]] ∧
      ¬ ∃ users, PagesList (searchPage accountRealm 3 (fun _ => [[2, 3], [1, 2]])
        ⟨some 3, none, none, none, none, none, none⟩ 1) 0 none users := by
  refine ⟨listed_accountRealm, indexesAgree_accountRealm, isScan_accountRealm, ?_⟩
  rintro ⟨users, h⟩
  have herror : searchPage accountRealm 3 (fun _ => [[2, 3], [1, 2]])
      ⟨some 3, none, none, none, none, none, none⟩ 1 0 none =
      .error (.bail "stored user has no account identifiers") := rfl
  exact pagesList_of_error herror h

end RustyAuth
