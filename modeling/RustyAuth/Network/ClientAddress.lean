/-
  The address that a request is rate limited by.

  Trusted proxies append to `X-Forwarded-For` the address they saw, to its last line or as a line
  of their own; `clientAddress` takes the entry that the outermost of them wrote, counted from the
  right.  `joinedForwardedFor` drops every line that is not visible ASCII.  A proxy that extends
  such a line is dropped with it, so the count lands on what the client wrote: the entry is the
  proxy's exactly if the line it extends can be decoded (`client_address_iff`).
-/
import RustyAuth.Library.Addresses
import RustyAuth.Library.Blanks

namespace RustyAuth

open Library

/-! ## Header lines -/

/-- A header value: no control byte but the tab. -/
structure HeaderValue where
  bytes : List UInt8
  legal : ∀ b ∈ bytes, 32 ≤ b ∧ b ≠ 127 ∨ b = 9

def isVisibleAscii (b : UInt8) : Bool := (32 ≤ b && b < 127) || b == 9

/-- `HeaderValue::to_str`. -/
def HeaderValue.toStr (value : HeaderValue) : Option (List Char) :=
  if value.bytes.all isVisibleAscii then some (value.bytes.map fun b => Char.ofNat b.toNat)
  else none

/-- The header as one value, without the lines that cannot be decoded. -/
def joinedForwardedFor (lines : List HeaderValue) : Option (List Char) :=
  let joined := join ',' (lines.filterMap HeaderValue.toStr)
  if joined = [] then none else some joined

/-- The entries of a header, from the left. -/
def entries (header : List Char) : List (List Char) :=
  ((splitAll ',' header).map trim).filter (· ≠ [])

def clientAddress (peer : IpAddr) (forwardedFor : Option (List Char)) (trustedHops : Nat) :
    IpAddr :=
  if trustedHops = 0 then peer
  else
    match forwardedFor with
    | none => peer
    | some header => (((entries header).reverse[trustedHops - 1]?).bind IpAddr.parse).getD peer

/-! ## Proxies -/

/-- A text of visible ASCII, as its bytes. -/
def bytesOf (text : List Char) : List UInt8 := text.map fun c => UInt8.ofNat c.toNat

def VisibleText (text : List Char) : Prop := ∀ c ∈ text, 32 ≤ c.toNat ∧ c.toNat < 127 ∨ c.toNat = 9

/-- How a proxy appends: on a line of its own or after a comma and some blanks. -/
structure Appending where
  newLine : Bool
  blanks : List Char
  blank : ∀ c ∈ blanks, c = ' ' ∨ c = '\t'

/-- A trusted proxy that forwards a request, with the text of the address it saw. -/
structure Proxy extends Appending where
  text : List Char
  address : IpAddr
  parses : IpAddr.parse text = some address

theorem visible_of_addressChar {c : Char} (h : AddressChar c) : 32 ≤ c.toNat ∧ c.toNat < 127 := by
  unfold AddressChar at h
  omega

theorem Proxy.visible_text (proxy : Proxy) : VisibleText proxy.text := fun c hc =>
  Or.inl (visible_of_addressChar ((IpAddr.parse_chars proxy.parses).2 c hc))

theorem Proxy.visible_blanks (proxy : Proxy) : VisibleText proxy.blanks := by
  intro c hc
  rcases proxy.blank c hc with rfl | rfl <;> decide

/-- What is appended to a line. -/
def Proxy.suffix (proxy : Proxy) : List Char := ',' :: (proxy.blanks ++ proxy.text)

theorem Proxy.visible_suffix (proxy : Proxy) : VisibleText proxy.suffix := by
  intro c hc
  rcases List.mem_cons.mp hc with rfl | hc
  · decide
  · rcases List.mem_append.mp hc with hblank | htext
    · exact proxy.visible_blanks c hblank
    · exact proxy.visible_text c htext

variable {text : List Char} {lines lines' : List HeaderValue}

theorem mem_bytesOf (h : VisibleText text) {b : UInt8} (hb : b ∈ bytesOf text) :
    ∃ c ∈ text, b.toNat = c.toNat ∧ (32 ≤ c.toNat ∧ c.toNat < 127 ∨ c.toNat = 9) := by
  obtain ⟨c, hc, rfl⟩ := List.mem_map.mp hb
  have hvisible := h c hc
  refine ⟨c, hc, ?_, hvisible⟩
  rw [UInt8.toNat_ofNat']
  omega

theorem isVisibleAscii_iff (b : UInt8) :
    isVisibleAscii b = true ↔ 32 ≤ b.toNat ∧ b.toNat < 127 ∨ b.toNat = 9 := by
  simp [isVisibleAscii, UInt8.le_iff_toNat_le, UInt8.lt_iff_toNat_lt, ← UInt8.toNat_inj]

theorem legal_of_visible {b : UInt8} (h : 32 ≤ b.toNat ∧ b.toNat < 127 ∨ b.toNat = 9) :
    32 ≤ b ∧ b ≠ 127 ∨ b = 9 := by
  rcases h with ⟨hlow, hhigh⟩ | htab
  · refine Or.inl ⟨UInt8.le_iff_toNat_le.mpr hlow, ?_⟩
    rintro rfl
    exact absurd hhigh (by decide)
  · exact Or.inr (UInt8.toNat_inj.mp htab)

theorem all_bytesOf (h : VisibleText text) :
    (bytesOf text).all isVisibleAscii = true := by
  rw [List.all_eq_true]
  intro b hb
  obtain ⟨c, -, heq, hvisible⟩ := mem_bytesOf h hb
  rw [isVisibleAscii_iff, heq]
  exact hvisible

theorem legal_bytesOf (h : VisibleText text) :
    ∀ b ∈ bytesOf text, 32 ≤ b ∧ b ≠ 127 ∨ b = 9 := by
  intro b hb
  exact legal_of_visible ((isVisibleAscii_iff b).mp (List.all_eq_true.mp (all_bytesOf h) b hb))

theorem map_bytesOf (h : VisibleText text) :
    (bytesOf text).map (fun b => Char.ofNat b.toNat) = text := by
  unfold bytesOf
  rw [List.map_map]
  refine (List.map_congr_left ?_).trans (List.map_id text)
  intro c hc
  have hsmall : c.toNat < 256 := by
    have hvisible := h c hc
    omega
  simp [UInt8.toNat_ofNat', Nat.mod_eq_of_lt hsmall]

def HeaderValue.append (value : HeaderValue) (text : List Char) (h : VisibleText text) :
    HeaderValue where
  bytes := value.bytes ++ bytesOf text
  legal := fun b hb => (List.mem_append.mp hb).elim (value.legal b) (legal_bytesOf h b)

def HeaderValue.empty : HeaderValue := ⟨[], fun _ hb => absurd hb List.not_mem_nil⟩

/-- The lines after a proxy; without a line there is none to extend. -/
def Proxy.forward (proxy : Proxy) (lines : List HeaderValue) : List HeaderValue :=
  match lines.getLast? with
  | none => [HeaderValue.empty.append proxy.text proxy.visible_text]
  | some last =>
      if proxy.newLine then lines ++ [HeaderValue.empty.append proxy.text proxy.visible_text]
      else lines.dropLast ++ [last.append proxy.suffix proxy.visible_suffix]

/-- The lines after all proxies, the outermost first. -/
def forwardAll (proxies : List Proxy) (lines : List HeaderValue) : List HeaderValue :=
  proxies.foldl (fun lines proxy => proxy.forward lines) lines

/-! ## Entries -/

theorem toStr_append (value : HeaderValue) (h : VisibleText text) :
    (value.append text h).toStr = value.toStr.map (· ++ text) := by
  unfold HeaderValue.toStr HeaderValue.append
  dsimp only
  rw [List.all_append, all_bytesOf h, Bool.and_true, List.map_append, map_bytesOf h]
  split <;> rfl

theorem toStr_empty_append (h : VisibleText text) :
    (HeaderValue.empty.append text h).toStr = some text := by
  rw [toStr_append]
  rfl

/-- All entries of the lines that can be decoded. -/
def lineEntries (lines : List HeaderValue) : List (List Char) :=
  (lines.filterMap HeaderValue.toStr).flatMap entries

theorem entries_join (fields : List (List Char)) :
    entries (join ',' fields) = fields.flatMap entries := by
  induction fields with
  | nil => decide
  | cons field fields ih =>
    cases fields with
    | nil => exact (List.append_nil _).symm
    | cons next fields =>
      rw [List.flatMap_cons, ← ih, join]
      · unfold entries
        rw [splitAll_append, List.map_append, List.filter_append]
      · exact fun h => List.cons_ne_nil _ _ h

/-- The address is chosen by the entries alone. -/
theorem clientAddress_joined (peer : IpAddr) (lines : List HeaderValue) (hops : Nat) :
    clientAddress peer (joinedForwardedFor lines) (hops + 1) =
      (((lineEntries lines).reverse[hops]?).bind IpAddr.parse).getD peer := by
  unfold clientAddress joinedForwardedFor lineEntries
  rw [if_neg (Nat.succ_ne_zero hops), ← entries_join]
  dsimp only
  split
  · next hnone =>
    have hempty : join ',' (lines.filterMap HeaderValue.toStr) = [] := by
      by_contra hne
      rw [if_neg hne] at hnone
      cases hnone
    rw [hempty]
    rfl
  · next header hsome =>
    have hheader : join ',' (lines.filterMap HeaderValue.toStr) = header := by
      split at hsome
      · cases hsome
      · exact Option.some.inj hsome
    rw [hheader, Nat.add_sub_cancel]

theorem not_whitespace_of_addressChar {c : Char} (h : AddressChar c) : isWhitespace c = false := by
  unfold AddressChar at h
  unfold isWhitespace
  simp only [Bool.or_eq_false_iff, Bool.and_eq_false_iff, decide_eq_false_iff_not,
    beq_eq_false_iff_ne]
  omega

theorem Proxy.entries_text (proxy : Proxy) {blanks : List Char}
    (hblanks : ∀ c ∈ blanks, c = ' ' ∨ c = '\t') :
    entries (blanks ++ proxy.text) = [proxy.text] := by
  obtain ⟨hne, hchars⟩ := IpAddr.parse_chars proxy.parses
  have hcomma : ',' ∉ blanks ++ proxy.text := by
    intro hmem
    rcases List.mem_append.mp hmem with hblank | htext
    · rcases hblanks _ hblank with h | h <;> cases h
    · have h := hchars _ htext
      revert h
      unfold AddressChar
      decide
  have htrim : trim (blanks ++ proxy.text) = proxy.text := by
    refine trim_of_blanks ?_ fun c hc => not_whitespace_of_addressChar (hchars c hc)
    intro c hc
    rcases hblanks c hc with rfl | rfl <;> decide
  unfold entries
  rw [splitAll_of_not_mem hcomma, List.map_singleton, htrim,
    List.filter_cons_of_pos (by simpa using hne)]
  rfl

theorem lineEntries_append (xs ys : List HeaderValue) :
    lineEntries (xs ++ ys) = lineEntries xs ++ lineEntries ys := by
  unfold lineEntries
  rw [List.filterMap_append, List.flatMap_append]

theorem lineEntries_singleton {value : HeaderValue} (h : value.toStr = some text) :
    lineEntries [value] = entries text := by
  unfold lineEntries
  rw [List.filterMap_cons_some h, List.filterMap_nil, List.flatMap_singleton]

/-! ## What the proxies make of the lines -/

/-- The last line, if there is one, can be decoded. -/
def LastDecodes (lines : List HeaderValue) : Prop :=
  ∀ last ∈ lines.getLast?, last.toStr ≠ none

/-- One proxy adds its entry, unless it extends a line that is dropped. -/
theorem forward_entries (proxy : Proxy) (h : proxy.newLine = true ∨ LastDecodes lines) :
    lineEntries (proxy.forward lines) = lineEntries lines ++ [proxy.text] ∧
      LastDecodes (proxy.forward lines) := by
  have hown : lineEntries [HeaderValue.empty.append proxy.text proxy.visible_text] =
      [proxy.text] := by
    rw [lineEntries_singleton (toStr_empty_append _)]
    exact proxy.entries_text fun c hc => absurd hc List.not_mem_nil
  have hdecodes : ∀ before : List HeaderValue, LastDecodes
      (before ++ [HeaderValue.empty.append proxy.text proxy.visible_text]) := by
    intro before last hlast
    rw [List.getLast?_concat] at hlast
    obtain rfl := Option.some.inj hlast
    rw [toStr_empty_append]
    exact Option.some_ne_none _
  unfold Proxy.forward
  split
  · next hnone =>
    obtain rfl := List.getLast?_eq_none_iff.mp hnone
    exact ⟨hown, hdecodes []⟩
  · next last hlast =>
    split
    · rw [lineEntries_append, hown]
      exact ⟨rfl, hdecodes lines⟩
    · next hsame =>
      have hlines : lines.dropLast ++ [last] = lines := List.dropLast_append_getLast? last hlast
      obtain ⟨text, htext⟩ := Option.ne_none_iff_exists'.mp ((h.resolve_left hsame) last hlast)
      have hextended : (last.append proxy.suffix proxy.visible_suffix).toStr =
          some (text ++ proxy.suffix) := by
        rw [toStr_append, htext]
        rfl
      have hentries : entries (text ++ proxy.suffix) = entries text ++ [proxy.text] := by
        rw [← proxy.entries_text proxy.blank]
        unfold entries Proxy.suffix
        rw [splitAll_append, List.map_append, List.filter_append]
      refine ⟨?_, ?_⟩
      · rw [lineEntries_append, lineEntries_singleton hextended, hentries, ← List.append_assoc,
          ← lineEntries_singleton htext, ← lineEntries_append, hlines]
      · intro other hother
        rw [List.getLast?_concat] at hother
        obtain rfl := Option.some.inj hother
        rw [hextended]
        exact Option.some_ne_none _

theorem forwardAll_entries (proxies : List Proxy) (h : LastDecodes lines) :
    lineEntries (forwardAll proxies lines) = lineEntries lines ++ proxies.map Proxy.text := by
  induction proxies generalizing lines with
  | nil => exact (List.append_nil _).symm
  | cons proxy proxies ih =>
    obtain ⟨hentries, hlast⟩ := forward_entries proxy (Or.inr h)
    rw [forwardAll, List.foldl_cons]
    refine (ih hlast).trans ?_
    rw [hentries, List.append_assoc]
    rfl

/-- Proxies cannot tell lines apart that are decoded alike. -/
theorem forward_congr (proxy : Proxy)
    (h : lines.map HeaderValue.toStr = lines'.map HeaderValue.toStr) :
    (proxy.forward lines).map HeaderValue.toStr = (proxy.forward lines').map HeaderValue.toStr := by
  have hlast : lines.getLast?.map HeaderValue.toStr = lines'.getLast?.map HeaderValue.toStr := by
    rw [← List.getLast?_map, ← List.getLast?_map, h]
  unfold Proxy.forward
  cases hl : lines.getLast? with
  | none =>
    rw [hl] at hlast
    rw [Option.map_eq_none_iff.mp hlast.symm]
  | some last =>
    rw [hl] at hlast
    obtain ⟨last', hl', heq⟩ := Option.map_eq_some_iff.mp hlast.symm
    rw [hl']
    dsimp only
    split
    · rw [List.map_append, List.map_append, h]
    · rw [List.map_append, List.map_append, List.map_dropLast, List.map_dropLast, h,
        List.map_singleton, List.map_singleton, toStr_append, toStr_append, heq]

theorem forwardAll_congr (proxies : List Proxy)
    (h : lines.map HeaderValue.toStr = lines'.map HeaderValue.toStr) :
    (forwardAll proxies lines).map HeaderValue.toStr =
      (forwardAll proxies lines').map HeaderValue.toStr := by
  induction proxies generalizing lines lines' with
  | nil => exact h
  | cons proxy proxies ih => exact ih (forward_congr proxy h)

theorem lineEntries_congr (h : lines.map HeaderValue.toStr = lines'.map HeaderValue.toStr) :
    lineEntries lines = lineEntries lines' := by
  have hmap : ∀ ls : List HeaderValue,
      ls.filterMap HeaderValue.toStr = (ls.map HeaderValue.toStr).filterMap id := by
    intro ls
    rw [List.filterMap_map]
    rfl
  unfold lineEntries
  rw [hmap, hmap, h]

theorem forward_dropped {last : HeaderValue} (hlast : lines.getLast? = some last)
    (hdropped : last.toStr = none) {proxy : Proxy} (hsame : proxy.newLine = false) :
    (proxy.forward lines).map HeaderValue.toStr = lines.map HeaderValue.toStr := by
  have hlines : lines.dropLast ++ [last] = lines := List.dropLast_append_getLast? last hlast
  have hstays : (last.append proxy.suffix proxy.visible_suffix).toStr = last.toStr := by
    rw [toStr_append, hdropped]
    rfl
  unfold Proxy.forward
  rw [hlast]
  dsimp only
  rw [hsame, if_neg Bool.false_ne_true]
  nth_rewrite 2 [← hlines]
  rw [List.map_append, List.map_append, List.map_singleton, List.map_singleton, hstays]

/-- A proxy that writes an address in its usual form. -/
def proxyOf (way : Appending) (address : IpAddr) : Proxy where
  toAppending := way
  text := address.text
  address := address
  parses := address.parse_text

/-- Without trusted hops the address is the peer's.  With them it is the one that the outermost
    trusted proxy appended, whatever that is, exactly if the proxy writes a line of its own or the
    last line of the client can be decoded. -/
theorem client_address_iff (peer : IpAddr) (lines : List HeaderValue) (way : Appending)
    (rest : List Proxy) :
    clientAddress peer (joinedForwardedFor lines) 0 = peer ∧
      ((∀ first : Proxy, first.toAppending = way →
        clientAddress peer (joinedForwardedFor (forwardAll (first :: rest) lines))
          (rest.length + 1) = first.address) ↔
        way.newLine = true ∨ lines = [] ∨ ∃ last ∈ lines.getLast?, last.toStr.isSome = true) := by
  refine ⟨if_pos rfl, ?_, ?_⟩
  · -- a line that is dropped takes the proxy's entry along, so any two proxies give one address
    intro hall
    by_contra hcond
    rw [not_or, not_or, Bool.not_eq_true] at hcond
    obtain ⟨hsame, hne, hdropped⟩ := hcond
    obtain ⟨last, hlast⟩ := Option.ne_none_iff_exists'.mp (mt List.getLast?_eq_none_iff.mp hne)
    have hnone : last.toStr = none := by
      by_contra hsome
      exact hdropped ⟨last, hlast, Option.isSome_iff_ne_none.mpr hsome⟩
    have hblind : ∀ address : IpAddr, lineEntries (forwardAll (proxyOf way address :: rest) lines) =
        lineEntries (forwardAll rest lines) := by
      intro address
      refine lineEntries_congr (forwardAll_congr rest ?_)
      exact forward_dropped hlast hnone hsame
    have hone := hall (proxyOf way (.v4 ⟨1, 1, 1, 1⟩)) rfl
    have htwo := hall (proxyOf way (.v4 ⟨2, 2, 2, 2⟩)) rfl
    rw [clientAddress_joined, hblind] at hone htwo
    have hsame : IpAddr.v4 ⟨1, 1, 1, 1⟩ = IpAddr.v4 ⟨2, 2, 2, 2⟩ := hone.symm.trans htwo
    exact absurd hsame (by decide)
  · intro hcond first hfirst
    have hstart : first.newLine = true ∨ LastDecodes lines := by
      rcases hcond with hnew | rfl | ⟨last, hlast, hsome⟩
      · rw [hfirst]
        exact Or.inl hnew
      · exact Or.inr fun last hlast => by cases hlast
      · refine Or.inr fun other hother => ?_
        obtain rfl := Option.some.inj (hlast.symm.trans hother)
        exact Option.isSome_iff_ne_none.mp hsome
    obtain ⟨hentries, hlast⟩ := forward_entries first hstart
    have hall : lineEntries (forwardAll (first :: rest) lines) =
        lineEntries lines ++ first.text :: rest.map Proxy.text := by
      refine (forwardAll_entries rest hlast).trans ?_
      rw [hentries, List.append_assoc]
      rfl
    have hget : (lineEntries lines ++ first.text :: rest.map Proxy.text).reverse[rest.length]? =
        some first.text := by
      rw [List.reverse_append, List.reverse_cons, List.append_assoc, List.getElem?_append_right]
      · simp
      · simp
    rw [clientAddress_joined, hall, hget, Option.bind_some, first.parses]
    rfl

theorem visibleText_of_all
    (h : text.all (fun c => 32 ≤ c.toNat && c.toNat < 127 || c.toNat == 9) = true) :
    VisibleText text := by
  intro c hc
  simpa using List.all_eq_true.mp h c hc

/-- A client's lines: an address of its choice, and a byte that is no visible ASCII. -/
def chosenLines : List HeaderValue :=
  [⟨bytesOf "203.0.113.9".toList, legal_bytesOf (visibleText_of_all (by decide +kernel))⟩,
    ⟨[0xff], by decide +kernel⟩]

/-- The proxy extends the last line, and the address is the client's choice. -/
theorem client_address_chosen :
    clientAddress (.v4 ⟨10, 0, 0, 1⟩) (joinedForwardedFor (forwardAll
      [proxyOf ⟨false, [' '], by simp⟩ (.v4 ⟨198, 51, 100, 7⟩)] chosenLines)) 1 =
      .v4 ⟨203, 0, 113, 9⟩ := by
  decide +kernel

end RustyAuth
