/-
  Addresses of the Internet Protocol and their texts, as the standard library of Rust has them.

  An IPv6 address is written with its longest run of zero groups as `::`, and with a dotted end
  if it stands for an IPv4 address.  Every address is read back from its text (`parse_text`), and
  what is read as an address consists of hexadecimal digits, dots and colons (`parse_chars`).
-/
import RustyAuth.Library.Numerals

namespace RustyAuth.Library

instance neZeroOctets : NeZero 256 := ⟨by decide⟩

structure Ipv4Addr where
  a : Fin 256
  b : Fin 256
  c : Fin 256
  d : Fin 256
deriving DecidableEq

/-- Eight groups of sixteen bits. -/
structure Ipv6Addr where
  segments : List Nat
  length_eq : segments.length = 8
  small : ∀ s ∈ segments, s < 65536
deriving DecidableEq

inductive IpAddr
  | v4 (address : Ipv4Addr)
  | v6 (address : Ipv6Addr)
deriving DecidableEq

/-! ## Reading -/

def readOctet (text : List Char) : Option (Fin 256) :=
  (readNumber 10 3 256 false text).bind fun n => if h : n < 256 then some ⟨n, h⟩ else none

def parseIpv4 (text : List Char) : Option Ipv4Addr :=
  match splitAll '.' text with
  | [a, b, c, d] => do
      let a ← readOctet a
      let b ← readOctet b
      let c ← readOctet c
      let d ← readOctet d
      return ⟨a, b, c, d⟩
  | _ => none

def readGroup (text : List Char) : Option Nat := readNumber 16 4 65536 true text

/-- The groups that an IPv4 address stands for. -/
def Ipv4Addr.groups (address : Ipv4Addr) : List Nat :=
  [address.a * 256 + address.b, address.c * 256 + address.d]

/-- Groups in hexadecimal; the last may be an IPv4 address if `dotted`. -/
def groupsOf (dotted : Bool) : List (List Char) → Option (List Nat)
  | [] => some []
  | [last] =>
      match if dotted then parseIpv4 last else none with
      | some address => some address.groups
      | none => (readGroup last).map ([·])
  | group :: groups => do
      let n ← readGroup group
      let ns ← groupsOf dotted groups
      return n :: ns

def readGroups (dotted : Bool) (text : List Char) : Option (List Nat) :=
  if text = [] then some [] else groupsOf dotted (splitAll ':' text)

/-- The text before and after the first double colon. -/
def splitDouble : List Char → Option (List Char × List Char)
  | [] => none
  | c :: rest =>
      if c = ':' ∧ rest.head? = some ':' then some ([], rest.tail)
      else (splitDouble rest).map fun (before, after) => (c :: before, after)

def Ipv6Addr.ofSegments (segments : List Nat) : Option Ipv6Addr :=
  if h : segments.length = 8 ∧ ∀ s ∈ segments, s < 65536 then some ⟨segments, h.1, h.2⟩ else none

/-- A double colon stands for at least one group. -/
def parseIpv6 (text : List Char) : Option Ipv6Addr :=
  match splitDouble text with
  | none => (readGroups true text).bind Ipv6Addr.ofSegments
  | some (head, tail) => do
      let head ← readGroups false head
      let tail ← readGroups true tail
      if head.length + tail.length ≤ 7 then
        Ipv6Addr.ofSegments (head ++ List.replicate (8 - (head.length + tail.length)) 0 ++ tail)
      else none

/-- `IpAddr::from_str`. -/
def IpAddr.parse (text : List Char) : Option IpAddr :=
  ((parseIpv4 text).map .v4).or ((parseIpv6 text).map .v6)

/-! ## Writing -/

def Ipv4Addr.text (address : Ipv4Addr) : List Char :=
  join '.' [numText 10 address.a, numText 10 address.b, numText 10 address.c, numText 10 address.d]

/-- `Ipv6Addr::to_ipv4_mapped`. -/
def Ipv6Addr.toIpv4Mapped (address : Ipv6Addr) : Option Ipv4Addr :=
  match address.segments with
  | [0, 0, 0, 0, 0, 0xffff, ab, cd] =>
      some ⟨Fin.ofNat 256 (ab / 256), Fin.ofNat 256 (ab % 256), Fin.ofNat 256 (cd / 256),
        Fin.ofNat 256 (cd % 256)⟩
  | _ => none

/-- A run of groups. -/
structure Span where
  start : Nat
  length : Nat

/-- The first longest run of zero groups; `current` ends at group `i`. -/
def longestZeros : List Nat → Nat → Span → Span → Span
  | [], _, _, longest => longest
  | s :: segments, i, current, longest =>
      if s = 0 then
        let current : Span := ⟨if current.length = 0 then i else current.start, current.length + 1⟩
        longestZeros segments (i + 1) current
          (if longest.length < current.length then current else longest)
      else longestZeros segments (i + 1) ⟨0, 0⟩ longest

def hexGroups (segments : List Nat) : List Char := join ':' (segments.map (numText 16))

/-- `Display` of an IPv6 address. -/
def Ipv6Addr.text (address : Ipv6Addr) : List Char :=
  match address.toIpv4Mapped with
  | some mapped => [':', ':', 'f', 'f', 'f', 'f', ':'] ++ mapped.text
  | none =>
      let zeros := longestZeros address.segments 0 ⟨0, 0⟩ ⟨0, 0⟩
      if 1 < zeros.length then
        hexGroups (address.segments.take zeros.start) ++
          ':' :: ':' :: hexGroups (address.segments.drop (zeros.start + zeros.length))
      else hexGroups address.segments

def IpAddr.text : IpAddr → List Char
  | .v4 address => address.text
  | .v6 address => address.text

/-! ## What an address is written with -/

/-- A hexadecimal digit, a dot or a colon. -/
def AddressChar (c : Char) : Prop := 46 ≤ c.toNat ∧ c.toNat ≤ 102

theorem readOctet_chars {text : List Char} {n : Fin 256} (h : readOctet text = some n) :
    text ≠ [] ∧ ∀ c ∈ text, 48 ≤ c.toNat ∧ c.toNat ≤ 102 ∧ c.toNat ≠ 58 := by
  obtain ⟨value, hread, -⟩ := Option.bind_eq_some_iff.mp h
  obtain ⟨hne, -, hchars⟩ := readNumber_eq_some hread
  exact ⟨hne, hchars⟩

theorem parseIpv4_chars {text : List Char} {address : Ipv4Addr}
    (h : parseIpv4 text = some address) : text ≠ [] ∧ ∀ c ∈ text, AddressChar c ∧ c ≠ ':' := by
  unfold parseIpv4 at h
  split at h
  · next a b c d hsplit =>
    simp only [Option.bind_eq_bind, Option.bind_eq_some_iff] at h
    obtain ⟨a', ha, b', hb, c', hc, d', hd, -⟩ := h
    have hpart : ∀ part ∈ splitAll '.' text, ∀ x ∈ part,
        48 ≤ x.toNat ∧ x.toNat ≤ 102 ∧ x.toNat ≠ 58 := by
      rw [hsplit]
      intro part hpart
      simp only [List.mem_cons, List.not_mem_nil, or_false] at hpart
      rcases hpart with rfl | rfl | rfl | rfl
      · exact (readOctet_chars ha).2
      · exact (readOctet_chars hb).2
      · exact (readOctet_chars hc).2
      · exact (readOctet_chars hd).2
    refine ⟨?_, fun x hx => ?_⟩
    · rintro rfl
      cases hsplit
    · have hfield : x = '.' ∨ ∃ part ∈ splitAll '.' text, x ∈ part := mem_splitAll hx
      rcases hfield with rfl | ⟨part, hmem, hxpart⟩
      · exact ⟨by unfold AddressChar; decide, by decide⟩
      · have hx := hpart part hmem x hxpart
        refine ⟨⟨by omega, hx.2.1⟩, ?_⟩
        rintro rfl
        exact hx.2.2 rfl
  · cases h

theorem groupsOf_chars {dotted : Bool} {parts : List (List Char)} :
    ∀ {ns : List Nat}, groupsOf dotted parts = some ns → ∀ part ∈ parts, ∀ c ∈ part,
      AddressChar c := by
  induction parts with
  | nil => exact fun _ part hpart => by cases hpart
  | cons group groups ih =>
    have hread : ∀ {n : Nat}, readGroup group = some n → ∀ c ∈ group, AddressChar c := by
      intro n hn c hc
      have hchars := (readNumber_eq_some hn).2.2 c hc
      exact ⟨by omega, hchars.2.1⟩
    cases groups with
    | nil =>
      intro ns h part hpart c hc
      obtain rfl := List.mem_singleton.mp hpart
      unfold groupsOf at h
      split at h
      · next address haddress =>
        cases dotted with
        | false => cases haddress
        | true => exact ((parseIpv4_chars haddress).2 c hc).1
      · obtain ⟨n, hn, -⟩ := Option.map_eq_some_iff.mp h
        exact hread hn c hc
    | cons next groups =>
      intro ns h part hpart c hc
      rw [groupsOf] at h
      · obtain ⟨n, hn, hrest⟩ := Option.bind_eq_some_iff.mp h
        obtain ⟨rest, hgroups, -⟩ := Option.bind_eq_some_iff.mp hrest
        rcases List.mem_cons.mp hpart with rfl | hmem
        · exact hread hn c hc
        · exact ih hgroups part hmem c hc
      · exact fun heq => List.cons_ne_nil _ _ heq

theorem readGroups_chars {dotted : Bool} {text : List Char} {ns : List Nat}
    (h : readGroups dotted text = some ns) : ∀ c ∈ text, AddressChar c := by
  intro c hc
  unfold readGroups at h
  split at h
  · next hnil =>
    rw [hnil] at hc
    cases hc
  · have hfield : c = ':' ∨ ∃ part ∈ splitAll ':' text, c ∈ part := mem_splitAll hc
    rcases hfield with rfl | ⟨part, hmem, hcpart⟩
    · unfold AddressChar
      decide
    · exact groupsOf_chars h part hmem c hcpart

theorem splitDouble_eq_some {text before after : List Char} :
    splitDouble text = some (before, after) → text = before ++ ':' :: ':' :: after := by
  induction text generalizing before with
  | nil => exact fun h => by cases h
  | cons c rest ih =>
    intro h
    unfold splitDouble at h
    split at h
    · next hdouble =>
      cases h
      obtain ⟨rfl, hhead⟩ := hdouble
      cases rest with
      | nil => cases hhead
      | cons d rest =>
        obtain rfl := Option.some.inj hhead
        rfl
    · obtain ⟨⟨before', after'⟩, hrest, heq⟩ := Option.map_eq_some_iff.mp h
      cases heq
      rw [ih hrest]
      rfl

theorem parseIpv6_chars {text : List Char} {address : Ipv6Addr}
    (h : parseIpv6 text = some address) : text ≠ [] ∧ ∀ c ∈ text, AddressChar c := by
  unfold parseIpv6 at h
  split at h
  · obtain ⟨segments, hread, haddress⟩ := Option.bind_eq_some_iff.mp h
    refine ⟨?_, readGroups_chars hread⟩
    rintro rfl
    cases hread
    cases haddress
  · next head tail hsplit =>
    obtain ⟨left, hleft, hrest⟩ := Option.bind_eq_some_iff.mp h
    obtain ⟨right, hright, -⟩ := Option.bind_eq_some_iff.mp hrest
    have htext := splitDouble_eq_some hsplit
    refine ⟨by rw [htext]; simp, fun c hc => ?_⟩
    have hcolon : AddressChar ':' := by unfold AddressChar; decide
    rw [htext, List.mem_append, List.mem_cons, List.mem_cons] at hc
    rcases hc with hhead | rfl | rfl | htail
    · exact readGroups_chars hleft c hhead
    · exact hcolon
    · exact hcolon
    · exact readGroups_chars hright c htail

/-- What is read as an address is not empty and consists of digits, dots and colons. -/
theorem IpAddr.parse_chars {text : List Char} {address : IpAddr}
    (h : IpAddr.parse text = some address) : text ≠ [] ∧ ∀ c ∈ text, AddressChar c := by
  unfold IpAddr.parse at h
  rcases Option.or_eq_some_iff.mp h with h4 | ⟨-, h6⟩
  · obtain ⟨v4, hv4, -⟩ := Option.map_eq_some_iff.mp h4
    obtain ⟨hne, hchars⟩ := parseIpv4_chars hv4
    exact ⟨hne, fun c hc => (hchars c hc).1⟩
  · obtain ⟨v6, hv6, -⟩ := Option.map_eq_some_iff.mp h6
    exact parseIpv6_chars hv6

/-! ## Round trip -/

theorem readOctet_numText (n : Fin 256) : readOctet (numText 10 n) = some n := by
  have hn : n.val < 10 ^ 3 := by omega
  unfold readOctet
  rw [readNumber_numText (by decide) (by decide) (by decide) n.isLt hn]
  simp [n.isLt]

theorem numText_not_mem {base n : Nat} (hbase : 1 < base) (hbase' : base ≤ 16) {separator : Char}
    (hsep : separator.toNat < 48 ∨ separator.toNat = 58) : separator ∉ numText base n := by
  intro hmem
  have hchar := numText_char hbase hbase' hmem
  omega

theorem parseIpv4_text (address : Ipv4Addr) : parseIpv4 address.text = some address := by
  have hsplit : splitAll '.' address.text = [numText 10 address.a, numText 10 address.b,
      numText 10 address.c, numText 10 address.d] := by
    refine splitAll_join (List.cons_ne_nil _ _) ?_
    intro field hfield
    simp only [List.mem_cons, List.not_mem_nil, or_false] at hfield
    rcases hfield with rfl | rfl | rfl | rfl <;>
      exact numText_not_mem (by decide) (by decide) (Or.inl (by decide))
  unfold parseIpv4
  rw [hsplit]
  simp [readOctet_numText]

theorem readGroup_numText {n : Nat} (h : n < 65536) : readGroup (numText 16 n) = some n :=
  readNumber_numText (by decide) (by decide) (by decide) h h true

/-- Dots tell an IPv4 address from a group. -/
theorem parseIpv4_numText (n : Nat) : parseIpv4 (numText 16 n) = none := by
  have hdot : '.' ∉ numText 16 n := numText_not_mem (by decide) (by decide) (Or.inl (by decide))
  unfold parseIpv4
  rw [splitAll_of_not_mem hdot]

theorem groupsOf_map (dotted : Bool) {segments : List Nat} (h : ∀ s ∈ segments, s < 65536) :
    groupsOf dotted (segments.map (numText 16)) = some segments := by
  induction segments with
  | nil => rfl
  | cons s segments ih =>
    have hs := readGroup_numText (h s List.mem_cons_self)
    have hrest := ih fun t ht => h t (List.mem_cons_of_mem _ ht)
    cases segments with
    | nil =>
      have hnone : (if dotted then parseIpv4 (numText 16 s) else none) = none := by
        cases dotted with
        | false => rfl
        | true => exact parseIpv4_numText s
      rw [List.map_cons, List.map_nil, groupsOf, hnone]
      dsimp only
      rw [hs]
      rfl
    | cons t segments =>
      rw [List.map_cons, groupsOf, hs, hrest]
      · rfl
      · exact fun heq => List.cons_ne_nil _ _ heq

theorem hexGroups_ne_nil {segments : List Nat} (h : segments ≠ []) : hexGroups segments ≠ [] := by
  cases segments with
  | nil => exact absurd rfl h
  | cons s segments =>
    cases segments with
    | nil => exact numText_ne_nil 16 s
    | cons t segments =>
      unfold hexGroups
      rw [List.map_cons, List.map_cons, join]
      · exact List.append_ne_nil_of_right_ne_nil _ (List.cons_ne_nil _ _)
      · exact fun heq => List.cons_ne_nil _ _ heq

theorem readGroups_hexGroups (dotted : Bool) {segments : List Nat}
    (h : ∀ s ∈ segments, s < 65536) : readGroups dotted (hexGroups segments) = some segments := by
  by_cases hnil : segments = []
  · rw [hnil]
    rfl
  · unfold readGroups
    rw [if_neg (hexGroups_ne_nil hnil)]
    unfold hexGroups
    rw [splitAll_join]
    · exact groupsOf_map dotted h
    · exact fun heq => hnil (List.map_eq_nil_iff.mp heq)
    · intro field hfield
      obtain ⟨s, -, rfl⟩ := List.mem_map.mp hfield
      exact numText_not_mem (by decide) (by decide) (Or.inr (by decide))

theorem hexGroups_cons_cons (s t : Nat) (segments : List Nat) :
    hexGroups (s :: t :: segments) = numText 16 s ++ ':' :: hexGroups (t :: segments) := by
  unfold hexGroups
  rw [List.map_cons, List.map_cons, join]
  exact fun heq => List.cons_ne_nil _ _ heq

theorem colon_not_mem (s : Nat) : ':' ∉ numText 16 s :=
  numText_not_mem (by decide) (by decide) (Or.inr (by decide))

theorem head_hexGroups (s : Nat) (segments : List Nat) (rest : List Char) :
    (hexGroups (s :: segments) ++ rest).head? ≠ some ':' := by
  have hstart : ∃ more, hexGroups (s :: segments) = numText 16 s ++ more := by
    cases segments with
    | nil => exact ⟨[], (List.append_nil _).symm⟩
    | cons t segments => exact ⟨_, hexGroups_cons_cons s t segments⟩
  obtain ⟨more, hmore⟩ := hstart
  have hcolon := colon_not_mem s
  cases htext : numText 16 s with
  | nil => exact absurd htext (numText_ne_nil 16 s)
  | cons c cs =>
    rw [hmore, htext]
    intro heq
    rw [htext] at hcolon
    exact hcolon (Option.some.inj heq ▸ List.mem_cons_self)

theorem splitDouble_append {field : List Char} (h : ':' ∉ field) (rest : List Char) :
    splitDouble (field ++ rest) = (splitDouble rest).map fun p => (field ++ p.1, p.2) := by
  induction field with
  | nil => exact Option.map_id'.symm
  | cons c field ih =>
    have hc : c ≠ ':' := fun heq => h (heq ▸ List.mem_cons_self)
    rw [List.cons_append, splitDouble, if_neg fun hdouble => hc hdouble.1,
      ih fun hmem => h (List.mem_cons_of_mem _ hmem), Option.map_map]
    rfl

/-- Groups are nowhere separated by two colons. -/
theorem splitDouble_hexGroups (segments : List Nat) (rest : List Char) :
    splitDouble (hexGroups segments ++ rest) =
      (splitDouble rest).map fun p => (hexGroups segments ++ p.1, p.2) := by
  induction segments with
  | nil => exact Option.map_id'.symm
  | cons s segments ih =>
    cases segments with
    | nil => exact splitDouble_append (colon_not_mem s) rest
    | cons t segments =>
      have hhead := head_hexGroups t segments rest
      rw [hexGroups_cons_cons, List.append_assoc, splitDouble_append (colon_not_mem s),
        List.cons_append, splitDouble, if_neg fun hdouble => hhead hdouble.2, ih, Option.map_map,
        Option.map_map]
      simp [Function.comp_def]

/-- The groups of an address with a run of zeros left out. -/
theorem parseIpv6_of_run {left right : List Nat} {zeros : Nat} (address : Ipv6Addr)
    (hzeros : 0 < zeros) (h : address.segments = left ++ List.replicate zeros 0 ++ right) :
    parseIpv6 (hexGroups left ++ ':' :: ':' :: hexGroups right) = some address := by
  have hlength := address.length_eq
  have hsmall := address.small
  rw [h, List.length_append, List.length_append, List.length_replicate] at hlength
  rw [h] at hsmall
  have hleft : ∀ s ∈ left, s < 65536 := fun s hs =>
    hsmall s (List.mem_append_left _ (List.mem_append_left _ hs))
  have hright : ∀ s ∈ right, s < 65536 := fun s hs => hsmall s (List.mem_append_right _ hs)
  have hsplit : splitDouble (hexGroups left ++ ':' :: ':' :: hexGroups right) =
      some (hexGroups left, hexGroups right) := by
    rw [splitDouble_hexGroups, splitDouble, if_pos ⟨rfl, rfl⟩]
    simp
  have hcount : 8 - (left.length + right.length) = zeros := by omega
  unfold parseIpv6
  rw [hsplit]
  dsimp only
  rw [readGroups_hexGroups false hleft, readGroups_hexGroups true hright]
  dsimp only [Option.bind_eq_bind, Option.bind_some]
  rw [if_pos (by omega), hcount, ← h]
  unfold Ipv6Addr.ofSegments
  rw [dif_pos ⟨address.length_eq, address.small⟩]

def ZeroRun (segments : List Nat) (run : Span) : Prop :=
  ∀ j, run.start ≤ j → j < run.start + run.length → segments[j]? = some 0

/-- The run that is kept is always one of zeros; `current`, unless empty, ends where the search
    stands. -/
theorem zeroRun_longestZeros {segments : List Nat} (rest : List Nat) (i : Nat)
    (current longest : Span) (hrest : segments.drop i = rest) (hcurrent : ZeroRun segments current)
    (hend : current.length = 0 ∨ current.start + current.length = i)
    (hlongest : ZeroRun segments longest) :
    ZeroRun segments (longestZeros rest i current longest) := by
  induction rest generalizing i current longest with
  | nil => exact hlongest
  | cons s rest ih =>
    have hdrop : segments.drop (i + 1) = rest := by
      rw [← List.drop_drop, hrest]
      rfl
    have hhere : segments[i]? = some s := by
      rw [← Nat.add_zero i, ← List.getElem?_drop, hrest]
      rfl
    unfold longestZeros
    by_cases hs : s = 0
    · rw [if_pos hs]
      dsimp only
      have hgrown : ZeroRun segments
          ⟨if current.length = 0 then i else current.start, current.length + 1⟩ := by
        intro j hstart hlt
        dsimp only at hstart hlt
        by_cases hj : j = i
        · rw [hj, hhere, hs]
        · split at hstart
          · next hempty =>
            rw [if_pos hempty] at hlt
            omega
          · next hsome =>
            rw [if_neg hsome] at hlt
            exact hcurrent j hstart (by omega)
      refine ih (i + 1) _ _ hdrop hgrown (Or.inr ?_) ?_
      · dsimp only
        split <;> omega
      · split
        · exact hgrown
        · exact hlongest
    · rw [if_neg hs]
      refine ih (i + 1) ⟨0, 0⟩ longest hdrop ?_ (Or.inl rfl) hlongest
      intro j _ hlt
      exact absurd hlt (Nat.not_lt_zero j)

theorem ZeroRun.split {segments : List Nat} {run : Span} (h : ZeroRun segments run) :
    segments = segments.take run.start ++ List.replicate run.length 0 ++
      segments.drop (run.start + run.length) := by
  have hmiddle : (segments.drop run.start).take run.length = List.replicate run.length 0 := by
    refine List.ext_getElem? fun j => ?_
    rw [List.getElem?_take, List.getElem?_replicate, List.getElem?_drop]
    split
    · exact h _ (by omega) (by omega)
    · rfl
  rw [← hmiddle, ← List.drop_drop, List.append_assoc, List.take_append_drop, List.take_append_drop]

theorem toIpv4Mapped_eq_some {address : Ipv6Addr} {mapped : Ipv4Addr}
    (h : address.toIpv4Mapped = some mapped) :
    address.segments = [0, 0, 0, 0, 0, 0xffff] ++ mapped.groups := by
  have hsmall := address.small
  unfold Ipv6Addr.toIpv4Mapped at h
  split at h
  · next ab cd hsegments =>
    rw [hsegments] at hsmall ⊢
    have hab := hsmall ab (by simp)
    have hcd := hsmall cd (by simp)
    rw [← Option.some.inj h]
    simp only [Ipv4Addr.groups, Fin.val_ofNat, List.cons_append, List.nil_append, List.cons.injEq,
      and_true, true_and]
    omega
  · cases h

theorem groupsOf_mapped (mapped : Ipv4Addr) :
    readGroups true (['f', 'f', 'f', 'f', ':'] ++ mapped.text) =
      some (0xffff :: mapped.groups) := by
  have hcolon : ':' ∉ mapped.text := fun hmem =>
    ((parseIpv4_chars (parseIpv4_text mapped)).2 ':' hmem).2 rfl
  have hsplit : splitAll ':' (['f', 'f', 'f', 'f', ':'] ++ mapped.text) =
      [['f', 'f', 'f', 'f'], mapped.text] := by
    have h := splitAll_append ':' ['f', 'f', 'f', 'f'] mapped.text
    rw [splitAll_of_not_mem hcolon] at h
    exact h
  have hgroup : readGroup ['f', 'f', 'f', 'f'] = some 0xffff := by decide
  unfold readGroups
  rw [if_neg (by simp), hsplit, groupsOf, hgroup]
  · rw [groupsOf, if_pos rfl, parseIpv4_text]
    rfl
  · exact fun heq => List.cons_ne_nil _ _ heq

theorem parseIpv6_text (address : Ipv6Addr) : parseIpv6 address.text = some address := by
  unfold Ipv6Addr.text
  split
  · next mapped hmapped =>
    have hsegments := toIpv4Mapped_eq_some hmapped
    unfold parseIpv6
    have hsplit : splitDouble ([':', ':', 'f', 'f', 'f', 'f', ':'] ++ mapped.text) =
        some ([], ['f', 'f', 'f', 'f', ':'] ++ mapped.text) := rfl
    rw [hsplit]
    dsimp only
    rw [groupsOf_mapped]
    have hof : Ipv6Addr.ofSegments address.segments = some address := by
      unfold Ipv6Addr.ofSegments
      rw [dif_pos ⟨address.length_eq, address.small⟩]
    rw [hsegments] at hof
    exact hof
  · dsimp only
    have hrun : ZeroRun address.segments (longestZeros address.segments 0 ⟨0, 0⟩ ⟨0, 0⟩) := by
      refine zeroRun_longestZeros _ 0 _ _ rfl ?_ (Or.inl rfl) ?_ <;>
        exact fun j _ hlt => absurd hlt (Nat.not_lt_zero j)
    split
    · next hlong => exact parseIpv6_of_run address (by omega) hrun.split
    · unfold parseIpv6
      have hsplit := splitDouble_hexGroups address.segments []
      rw [List.append_nil] at hsplit
      rw [hsplit]
      dsimp only [splitDouble, Option.map_none]
      rw [readGroups_hexGroups true address.small]
      unfold Ipv6Addr.ofSegments
      exact dif_pos ⟨address.length_eq, address.small⟩

theorem colon_mem_text (address : Ipv6Addr) : ':' ∈ address.text := by
  unfold Ipv6Addr.text
  split
  · exact List.mem_append_left _ (by decide)
  · dsimp only
    split
    · exact List.mem_append_right _ List.mem_cons_self
    · have hlength := address.length_eq
      cases hsegments : address.segments with
      | nil =>
        rw [hsegments] at hlength
        cases hlength
      | cons s segments =>
        cases segments with
        | nil =>
          rw [hsegments] at hlength
          cases hlength
        | cons t segments =>
          rw [hexGroups_cons_cons]
          exact List.mem_append_right _ List.mem_cons_self

/-- Every address is read back from its text. -/
theorem IpAddr.parse_text (address : IpAddr) : IpAddr.parse address.text = some address := by
  cases address with
  | v4 address =>
    have h : parseIpv4 (IpAddr.v4 address).text = some address := parseIpv4_text address
    unfold IpAddr.parse
    rw [h]
    rfl
  | v6 address =>
    have h : parseIpv6 (IpAddr.v6 address).text = some address := parseIpv6_text address
    have hnone : parseIpv4 (IpAddr.v6 address).text = none := by
      cases hparse : parseIpv4 (IpAddr.v6 address).text with
      | none => rfl
      | some v4 => exact absurd rfl ((parseIpv4_chars hparse).2 ':' (colon_mem_text address)).2
    unfold IpAddr.parse
    rw [hnone, h]
    rfl

end RustyAuth.Library
