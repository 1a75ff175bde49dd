/-
  The canonical forms of identifiers.

  An email address is a local part and a domain of labels (`EmailForm`), a telephone number a
  plus and its digits (`PhoneForm`).  Canonicalising gives a text of that form, leaves a
  canonical text as it is, and accepts every text of the form; blanks around the input, the
  case of an address and the separators of a number say nothing.
-/
import RustyAuth.Account.Identifiers
import RustyAuth.Library.Blanks
import RustyAuth.Library.Numerals

namespace RustyAuth

open RustyAuth.Library

/-! ## The forms -/

structure LocalForm (localPart : List Char) : Prop where
  nonempty : 1 ≤ localPart.length
  short : localPart.length ≤ 64
  chars : ∀ c ∈ localPart, emailLocalChar c = true
  leading : localPart.head? ≠ some '.'
  trailing : localPart.getLast? ≠ some '.'
  doubled : ¬['.', '.'] <:+: localPart

/-- Letters and digits, with hyphens between them. -/
structure LabelForm (label : List Char) : Prop where
  nonempty : 1 ≤ label.length
  short : label.length ≤ 63
  chars : ∀ c ∈ label, c.isAlphanum = true ∨ c = '-'
  first : ∃ c ∈ label.head?, c.isAlphanum = true
  last : ∃ c ∈ label.getLast?, c.isAlphanum = true

structure DomainForm (labels : List (List Char)) : Prop where
  nonempty : labels ≠ []
  short : (join '.' labels).length ≤ 253
  labels : ∀ label ∈ labels, LabelForm label

def EmailForm (text : List Char) : Prop :=
  ∃ localPart labels, text = localPart ++ '@' :: join '.' labels ∧ LocalForm localPart ∧
    DomainForm labels

def PhoneForm (text : List Char) : Prop :=
  ∃ digits, text = '+' :: digits ∧ 8 ≤ digits.length ∧ digits.length ≤ 15 ∧
    (∀ c ∈ digits, c.isDigit = true) ∧ digits.head? ≠ some '0'

def IdentifierKind.Form : IdentifierKind → List Char → Prop
  | .email, text => EmailForm text
  | .phone, text => PhoneForm text

/-! ## The checks of an address -/

variable {localPart label text : List Char} {c : Char} {value : String}

theorem emailLocalValid_iff :
    emailLocalValid localPart = true ↔ LocalForm localPart := by
  unfold emailLocalValid
  simp only [Bool.and_eq_true, Bool.not_eq_true', decide_eq_true_eq, bne_iff_ne, List.all_eq_true,
    decide_eq_false_iff_not, List.isEmpty_eq_false_iff, ← List.length_pos_iff]
  constructor
  · rintro ⟨⟨⟨⟨⟨hne, hshort⟩, hleading⟩, htrailing⟩, hdoubled⟩, hchars⟩
    exact ⟨hne, hshort, hchars, hleading, htrailing, hdoubled⟩
  · intro h
    exact ⟨⟨⟨⟨⟨h.nonempty, h.short⟩, h.leading⟩, h.trailing⟩, h.doubled⟩, h.chars⟩

theorem emailLabelValid_iff :
    emailLabelValid label = true ↔ LabelForm label := by
  unfold emailLabelValid emailLabelChar
  simp only [Bool.and_eq_true, Bool.not_eq_true', decide_eq_true_eq, List.all_eq_true,
    Bool.or_eq_true, beq_iff_eq, Option.any_eq_true, List.isEmpty_eq_false_iff,
    ← List.length_pos_iff]
  constructor
  · rintro ⟨⟨⟨⟨hne, hshort⟩, hchars⟩, hfirst⟩, hlast⟩
    exact ⟨hne, hshort, hchars, hfirst, hlast⟩
  · intro h
    exact ⟨⟨⟨⟨h.nonempty, h.short⟩, h.chars⟩, h.first⟩, h.last⟩

theorem LabelForm.not_mem (h : LabelForm label) (hc : c.isAlphanum = false) (hhyphen : c ≠ '-') :
    c ∉ label := by
  intro hmem
  rcases h.chars c hmem with halnum | heq
  · rw [hc] at halnum
    cases halnum
  · exact hhyphen heq

theorem DomainForm.not_mem {labels : List (List Char)} (h : DomainForm labels) :
    '@' ∉ join '.' labels := by
  intro hmem
  rcases mem_join hmem with heq | ⟨label, hlabel, hc⟩
  · cases heq
  · exact (h.labels label hlabel).not_mem rfl (by decide) hc

theorem emailDomainValid_iff {domain : List Char} :
    emailDomainValid domain = true ↔
      ∃ labels, domain = join '.' labels ∧ DomainForm labels := by
  unfold emailDomainValid
  simp only [Bool.and_eq_true, Bool.not_eq_true', decide_eq_true_eq, List.all_eq_true,
    List.isEmpty_eq_false_iff]
  constructor
  · rintro ⟨⟨⟨_, hshort⟩, _⟩, hlabels⟩
    refine ⟨splitAll '.' domain, (join_splitAll '.' domain).symm, splitAll_ne_nil _ _, ?_, ?_⟩
    · rw [join_splitAll]
      exact hshort
    · intro label hlabel
      exact emailLabelValid_iff.mp (hlabels label hlabel)
  · rintro ⟨labels, rfl, h⟩
    have hsplit : splitAll '.' (join '.' labels) = labels :=
      splitAll_join h.nonempty fun label hlabel =>
        (h.labels label hlabel).not_mem rfl (by decide)
    refine ⟨⟨⟨?_, h.short⟩, ?_⟩, ?_⟩
    · intro hempty
      rw [hempty] at hsplit
      have hlabel := (h.labels [] (hsplit ▸ List.mem_singleton_self _)).nonempty
      cases hlabel
    · rw [List.contains_eq_mem, decide_eq_false_iff_not]
      exact h.not_mem
    · rw [hsplit]
      intro label hlabel
      exact emailLabelValid_iff.mpr (h.labels label hlabel)

theorem LocalForm.not_mem (h : LocalForm localPart) : '@' ∉ localPart := by
  intro hmem
  have hchar := h.chars '@' hmem
  revert hchar
  decide

section

variable {text : List Char} (h : EmailForm text)

include h

theorem EmailForm.visible : ∀ c ∈ text, Visible c := by
  obtain ⟨localPart, labels, rfl, hlocal, hdomain⟩ := h
  intro c hc
  rcases List.mem_append.mp hc with hc | hc
  · exact visible_of_emailLocalChar (hlocal.chars c hc)
  · rcases List.mem_cons.mp hc with rfl | hc
    · decide
    · exact visible_of_emailDomain (emailDomainValid_iff.mpr ⟨labels, rfl, hdomain⟩) c hc

theorem EmailForm.count_at : text.count '@' = 1 := by
  obtain ⟨localPart, labels, rfl, hlocal, hdomain⟩ := h
  rw [List.count_append, List.count_cons_self, List.count_eq_zero.mpr hlocal.not_mem,
    List.count_eq_zero.mpr hdomain.not_mem]

theorem EmailForm.length_le : text.length ≤ 320 := by
  obtain ⟨localPart, labels, rfl, hlocal, hdomain⟩ := h
  rw [List.length_append, List.length_cons]
  have hshort := hlocal.short
  have hdomain := hdomain.short
  omega

end

theorem Visible.not_whitespace (h : Visible c) : isWhitespace c = false := by
  obtain ⟨hlow, hhigh⟩ := h
  unfold isWhitespace
  simp only [Bool.or_eq_false_iff, Bool.and_eq_false_iff, decide_eq_false_iff_not,
    beq_eq_false_iff_ne]
  omega

/-- The address is accepted exactly if, trimmed and in lower case, it has the form. -/
theorem canonicalEmailValue_eq_ok {email : String} :
    canonicalEmailValue value = .ok email ↔
      email.toList = (trim value.toList).map Char.toLower ∧ EmailForm email.toList := by
  simp only [canonicalEmailValue, bind_eq_ok, ensure_eq_ok, okOr_eq_ok, pure_eq_ok, exists_const]
  constructor
  · rintro ⟨_, ⟨localPart, domain⟩, hsplit, ⟨hlocal, hdomain⟩, rfl⟩
    rw [String.toList_ofList]
    obtain ⟨labels, rfl, hlabels⟩ := emailDomainValid_iff.mp hdomain
    exact ⟨rfl, localPart, labels, splitOnceAt_eq_some hsplit, emailLocalValid_iff.mp hlocal,
      hlabels⟩
  · rintro ⟨hemail, hform⟩
    rw [← hemail]
    have hvisible := hform.visible
    have hbytes : byteLength email.toList = email.toList.length :=
      utf8ByteSize_ofList_visible hvisible
    have hlength := hform.length_le
    refine ⟨?_, ?_⟩
    · rw [not_or, not_or, not_not, List.all_eq_true, hbytes]
      refine ⟨?_, Nat.not_lt.mpr hlength, ?_⟩
      · intro hempty
        have hcount := hform.count_at
        rw [hempty] at hcount
        cases hcount
      · intro c hc
        rw [decide_eq_true_eq]
        exact Nat.lt_of_le_of_lt (hvisible c hc).2 (by decide)
    · obtain ⟨localPart, labels, htext, hlocal, hdomain⟩ := hform
      refine ⟨(localPart, join '.' labels), ?_, ⟨emailLocalValid_iff.mpr hlocal,
        emailDomainValid_iff.mpr ⟨labels, rfl, hdomain⟩⟩, String.ofList_toList⟩
      rw [htext]
      exact splitOnceAt_append hlocal.not_mem

/-! ## Case -/

theorem emailLocalChar_toLower (h : emailLocalChar c = true) :
    emailLocalChar c.toLower = true := by
  rcases toLower_cases c with ⟨_, hlower⟩ | hsame
  · unfold emailLocalChar
    rw [hlower, Bool.true_or]
  · rw [hsame]
    exact h

/-- A character that is no letter is none after lowering. -/
theorem toLower_eq_iff {d : Char} (hd : d.isAlphanum = false) : c.toLower = d ↔ c = d := by
  rcases toLower_cases c with ⟨halnum, hlower⟩ | hsame
  · constructor
    · intro heq
      rw [heq, hd] at hlower
      cases hlower
    · intro heq
      rw [heq, hd] at halnum
      cases halnum
  · rw [hsame]

theorem isAlphanum_toLower (h : c.isAlphanum = true) : c.toLower.isAlphanum = true := by
  rcases toLower_cases c with ⟨_, hlower⟩ | hsame
  · exact hlower
  · rw [hsame]
    exact h

theorem LocalForm.toLower (h : LocalForm localPart) :
    LocalForm (localPart.map Char.toLower) where
  nonempty := (List.length_map _).symm ▸ h.nonempty
  short := (List.length_map _).symm ▸ h.short
  chars := by
    intro c hc
    obtain ⟨d, hd, rfl⟩ := List.mem_map.mp hc
    exact emailLocalChar_toLower (h.chars d hd)
  leading := by
    rw [List.head?_map]
    intro hdot
    obtain ⟨c, hc, heq⟩ := Option.map_eq_some_iff.mp hdot
    rw [toLower_eq_iff rfl] at heq
    exact h.leading (heq ▸ hc)
  trailing := by
    rw [List.getLast?_map]
    intro hdot
    obtain ⟨c, hc, heq⟩ := Option.map_eq_some_iff.mp hdot
    rw [toLower_eq_iff rfl] at heq
    exact h.trailing (heq ▸ hc)
  doubled := by
    intro hdots
    obtain ⟨dots, hinfix, hmap⟩ := List.infix_map_iff.mp hdots
    obtain ⟨a, b, rfl⟩ := List.length_eq_two.mp
      ((List.length_map Char.toLower).symm.trans (congrArg List.length hmap.symm))
    rw [List.map_cons, List.map_cons, List.map_nil, List.cons.injEq, List.cons.injEq] at hmap
    rw [(toLower_eq_iff rfl).mp hmap.1.symm, (toLower_eq_iff rfl).mp hmap.2.1.symm] at hinfix
    exact h.doubled hinfix

theorem LabelForm.toLower (h : LabelForm label) :
    LabelForm (label.map Char.toLower) where
  nonempty := (List.length_map _).symm ▸ h.nonempty
  short := (List.length_map _).symm ▸ h.short
  chars := by
    intro c hc
    obtain ⟨d, hd, rfl⟩ := List.mem_map.mp hc
    rcases h.chars d hd with halnum | rfl
    · exact Or.inl (isAlphanum_toLower halnum)
    · exact Or.inr rfl
  first := by
    obtain ⟨c, hc, halnum⟩ := h.first
    rw [List.head?_map]
    exact ⟨c.toLower, Option.mem_map_of_mem _ hc, isAlphanum_toLower halnum⟩
  last := by
    obtain ⟨c, hc, halnum⟩ := h.last
    rw [List.getLast?_map]
    exact ⟨c.toLower, Option.mem_map_of_mem _ hc, isAlphanum_toLower halnum⟩

theorem EmailForm.toLower (h : EmailForm text) :
    EmailForm (text.map Char.toLower) := by
  obtain ⟨localPart, labels, rfl, hlocal, hdomain⟩ := h
  have hjoin := join_map (f := Char.toLower) (show Char.toLower '.' = '.' by decide) labels
  refine ⟨localPart.map Char.toLower, labels.map (List.map Char.toLower), ?_, hlocal.toLower,
    ?_, ?_, ?_⟩
  · rw [List.map_append, List.map_cons, hjoin]
    rfl
  · exact fun hnil => hdomain.nonempty (List.map_eq_nil_iff.mp hnil)
  · rw [← hjoin, List.length_map]
    exact hdomain.short
  · intro label hlabel
    obtain ⟨label', hlabel', rfl⟩ := List.mem_map.mp hlabel
    exact (hdomain.labels label' hlabel').toLower

/-! ## Telephone numbers -/

theorem phoneSeparator_not_digit (h : c.isDigit = true) : phoneSeparator c = false := by
  unfold phoneSeparator
  rw [List.contains_eq_mem, decide_eq_false_iff_not]
  intro hmem
  have hall : [' ', '\t', '\n', '\x0c', '\r', '-', '(', ')', '.'].all (!·.isDigit) = true := rfl
  have hnot := List.all_eq_true.mp hall c hmem
  rw [h] at hnot
  cases hnot

/-- Where nothing else stands, what is no separator is a digit. -/
theorem filter_isDigit_eq (h : ∀ c ∈ text, (c.isDigit || phoneSeparator c) = true) :
    text.filter Char.isDigit = text.filter (! phoneSeparator ·) := by
  refine List.filter_congr fun c hc => ?_
  cases hdigit : c.isDigit with
  | true => rw [phoneSeparator_not_digit hdigit, Bool.not_false]
  | false =>
    have hseparator := h c hc
    rw [hdigit, Bool.false_or] at hseparator
    rw [hseparator, Bool.not_true]

/-- The number is accepted exactly if, without the separators, it has the form. -/
theorem canonicalPhoneValue_eq_ok {phone : String} :
    canonicalPhoneValue value = .ok phone ↔
      ∃ rest, trim value.toList = '+' :: rest ∧ byteLength ('+' :: rest) ≤ 64 ∧
        phone.toList = '+' :: rest.filter (! phoneSeparator ·) ∧ PhoneForm phone.toList := by
  simp only [canonicalPhoneValue, bind_eq_ok, ensure_eq_ok, pure_eq_ok, exists_const]
  constructor
  · rintro ⟨⟨hshort, hplus⟩, hchars, ⟨hmin, hmax, hzero⟩, rfl⟩
    obtain ⟨rest, htrim⟩ := List.head?_eq_some_iff.mp hplus
    rw [htrim, List.tail_cons, List.all_eq_true] at hchars
    rw [htrim, List.tail_cons] at hmin hmax hzero ⊢
    rw [htrim] at hshort
    have hsame := filter_isDigit_eq hchars
    rw [String.toList_ofList]
    refine ⟨rest, rfl, hshort, by rw [hsame], rest.filter Char.isDigit, rfl, hmin, hmax, ?_, hzero⟩
    exact fun c hc => (List.mem_filter.mp hc).2
  · rintro ⟨rest, htrim, hshort, hphone, digits, hform, hmin, hmax, hdigits, hzero⟩
    rw [htrim, List.tail_cons, List.head?_cons]
    rw [hphone, List.cons.injEq] at hform
    obtain ⟨_, rfl⟩ := hform
    have hall : ∀ c ∈ rest, (c.isDigit || phoneSeparator c) = true := by
      intro c hc
      cases hseparator : phoneSeparator c with
      | true => rw [Bool.or_true]
      | false =>
        have hmem : c ∈ rest.filter (! phoneSeparator ·) :=
          List.mem_filter.mpr ⟨hc, by rw [hseparator]; rfl⟩
        rw [hdigits c hmem, Bool.true_or]
    rw [filter_isDigit_eq hall]
    refine ⟨⟨hshort, rfl⟩, List.all_eq_true.mpr hall, ⟨hmin, hmax, hzero⟩, ?_⟩
    rw [← hphone, String.ofList_toList]

theorem PhoneForm.visible (h : PhoneForm text) : ∀ c ∈ text, Visible c := by
  obtain ⟨digits, rfl, _, _, hdigits, _⟩ := h
  intro c hc
  rcases List.mem_cons.mp hc with rfl | hc
  · decide
  · exact visible_of_isDigit (hdigits c hc)

/-! ### The slice after the plus -/

/-- The slice from a byte on; `none` is a panic, at an index that is no boundary of characters or
    past the end. -/
def sliceFrom : List Char → Nat → Option (List Char)
  | text, 0 => some text
  | [], _ + 1 => none
  | c :: text, n + 1 => if c.utf8Size ≤ n + 1 then sliceFrom text (n + 1 - c.utf8Size) else none

/-- `canonical_phone_value` with the slice as the source takes it. -/
def canonicalPhoneSliced (value : String) : Option (Except IdentifierValidationError String) :=
  let value := trim value.toList
  if byteLength value ≤ 64 ∧ value.head? = some '+' then
    (sliceFrom value 1).map fun rest => do
      ensure (rest.all fun c => c.isDigit || phoneSeparator c) .phone
      let digits := rest.filter Char.isDigit
      ensure (8 ≤ digits.length ∧ digits.length ≤ 15 ∧ digits.head? ≠ some '0') .phone
      return String.ofList ('+' :: digits)
  else some (.error .phone)

theorem canonicalPhoneSliced_eq (value : String) :
    canonicalPhoneSliced value = some (canonicalPhoneValue value) := by
  unfold canonicalPhoneSliced canonicalPhoneValue
  dsimp only
  split
  · next hstart =>
    obtain ⟨rest, htrim⟩ := List.head?_eq_some_iff.mp hstart.2
    have hslice : sliceFrom (trim value.toList) 1 = some (trim value.toList).tail := by
      have hsize : Char.utf8Size '+' = 1 := by decide
      rw [htrim, sliceFrom, hsize, if_pos (Nat.le_refl _), sliceFrom, List.tail_cons]
    rw [hslice, Option.map_some]
    congr 1
    unfold ensure
    rw [if_pos hstart]
    rfl
  · next hstart =>
    unfold ensure
    rw [if_neg hstart]
    rfl

/-! ## The projection -/

namespace IdentifierValue

/-- The value of an identifier is canonicalised by itself, the kind stays. -/
theorem map_mk_eq_ok {ε : Type} {kind : IdentifierKind} {x : Except ε String}
    {identifier : IdentifierValue} : x.map (IdentifierValue.mk kind) = .ok identifier ↔
      identifier.kind = kind ∧ x = .ok identifier.value := by
  obtain ⟨kind', text⟩ := identifier
  cases x with
  | error e => simp [Except.map]
  | ok canonical =>
    simp only [Except.map, Except.ok.injEq, IdentifierValue.mk.injEq]
    exact and_congr_left fun _ => eq_comm

theorem canonical_email {identifier : IdentifierValue} :
    canonical .email value = .ok identifier ↔
      identifier.kind = .email ∧ canonicalEmailValue value = .ok identifier.value :=
  map_mk_eq_ok

theorem canonical_phone {identifier : IdentifierValue} :
    canonical .phone value = .ok identifier ↔
      identifier.kind = .phone ∧ canonicalPhoneValue value = .ok identifier.value :=
  map_mk_eq_ok

end IdentifierValue

theorem canonicalEmailValue_fixed {email : String} (h : canonicalEmailValue value = .ok email) :
    canonicalEmailValue email = .ok email := by
  obtain ⟨hemail, hform⟩ := canonicalEmailValue_eq_ok.mp h
  refine canonicalEmailValue_eq_ok.mpr ⟨?_, hform⟩
  rw [trim_of_not_blank fun c hc => (hform.visible c hc).not_whitespace, hemail, List.map_map]
  exact (List.map_congr_left fun c _ => toLower_toLower c).symm

theorem canonicalPhoneValue_of_form (h : PhoneForm value.toList) :
    canonicalPhoneValue value = .ok value := by
  refine canonicalPhoneValue_eq_ok.mpr ?_
  have htrim := trim_of_not_blank fun c hc => (h.visible c hc).not_whitespace
  have hbytes : byteLength value.toList = value.toList.length :=
    utf8ByteSize_ofList_visible h.visible
  obtain ⟨digits, hvalue, hmin, hmax, hdigits, hzero⟩ := h
  have hkept : digits.filter (! phoneSeparator ·) = digits := by
    refine List.filter_eq_self.mpr fun c hc => ?_
    rw [phoneSeparator_not_digit (hdigits c hc), Bool.not_false]
  rw [hvalue, List.length_cons] at hbytes
  refine ⟨digits, htrim.trans hvalue, ?_, ?_, digits, hvalue, hmin, hmax, hdigits, hzero⟩
  · rw [hbytes]
    omega
  · rw [hkept, hvalue]

theorem canonicalEmailValue_of_form (h : EmailForm value.toList) :
    canonicalEmailValue value = .ok (String.ofList (value.toList.map Char.toLower)) := by
  refine canonicalEmailValue_eq_ok.mpr ⟨?_, ?_⟩
  · rw [trim_of_not_blank fun c hc => (h.visible c hc).not_whitespace, String.toList_ofList]
  · rw [String.toList_ofList]
    exact h.toLower

/-- Addresses that differ in blanks around them and in case only. -/
theorem canonicalEmailValue_congr {before after before' text' after' : List Char}
    (hblank : ∀ c ∈ before ++ after ++ before' ++ after', isWhitespace c = true)
    (hcase : text.map Char.toLower = text'.map Char.toLower) :
    canonicalEmailValue (String.ofList (before ++ text ++ after)) =
      canonicalEmailValue (String.ofList (before' ++ text' ++ after')) := by
  simp only [List.forall_mem_append] at hblank
  obtain ⟨⟨⟨hbefore, hafter⟩, hbefore'⟩, hafter'⟩ := hblank
  unfold canonicalEmailValue
  rw [String.toList_ofList, String.toList_ofList, trim_surround hbefore hafter,
    trim_surround hbefore' hafter', ← trim_map isWhitespace_toLower, hcase,
    trim_map isWhitespace_toLower]

/-- Numbers that differ in blanks around them and in separators only. -/
theorem canonicalPhoneValue_congr {value' : String} {rest rest' : List Char}
    (htrim : trim value.toList = '+' :: rest) (htrim' : trim value'.toList = '+' :: rest')
    (hshort : byteLength ('+' :: rest) ≤ 64) (hshort' : byteLength ('+' :: rest') ≤ 64)
    (hsame : rest.filter (! phoneSeparator ·) = rest'.filter (! phoneSeparator ·)) :
    canonicalPhoneValue value = canonicalPhoneValue value' := by
  have hchars : ∀ text : List Char, (text.all fun c => c.isDigit || phoneSeparator c) =
      (text.filter (! phoneSeparator ·)).all Char.isDigit := by
    intro text
    rw [List.all_filter]
    congr 1
    funext c
    rw [Bool.not_not, Bool.or_comm]
  have hdigits : ∀ text : List Char, text.filter Char.isDigit =
      (text.filter (! phoneSeparator ·)).filter Char.isDigit := by
    intro text
    rw [List.filter_filter]
    refine List.filter_congr fun c _ => ?_
    cases hdigit : c.isDigit with
    | true => rw [phoneSeparator_not_digit hdigit]; rfl
    | false => rfl
  unfold canonicalPhoneValue
  dsimp only
  rw [htrim, htrim', List.tail_cons, List.tail_cons, hchars rest, hchars rest', hdigits rest,
    hdigits rest', hsame]
  simp only [hshort, hshort', List.head?_cons]

theorem identifier_text_inj {kind kind' : IdentifierKind} {value' : String}
    (h : (Key.identifier kind value).text = (Key.identifier kind' value').text) :
    kind = kind' ∧ value = value' := by
  change "auth:identifier:" ++ (kind.asStr ++ ":" ++ value) =
    "auth:identifier:" ++ (kind'.asStr ++ ":" ++ value') at h
  have hlist : "auth:identifier:".toList ++ ((kind.asStr ++ ":").toList ++ value.toList) =
      "auth:identifier:".toList ++ ((kind'.asStr ++ ":").toList ++ value'.toList) := by
    simpa only [String.toList_append] using congrArg String.toList h
  -- the names of the kinds are as long as each other
  have hlength : (kind.asStr ++ ":").toList.length = (kind'.asStr ++ ":").toList.length := by
    cases kind <;> cases kind' <;> decide
  obtain ⟨hkind, hvalue⟩ := List.append_inj (List.append_cancel_left hlist) hlength
  refine ⟨?_, String.toList_inj.mp hvalue⟩
  revert hkind
  cases kind <;> cases kind' <;> decide

/-- Canonicalising is a projection onto the texts of the form, blind to blanks around the input,
    to case in addresses and to separators in numbers; it never panics, and different
    identifiers have different keys. -/
theorem canonical_is_projection :
    (∀ kind value identifier, IdentifierValue.canonical kind value = .ok identifier →
      identifier.kind = kind ∧
      IdentifierValue.canonical kind identifier.value = .ok identifier ∧
      (∀ c ∈ identifier.value.toList, c.toNat < 128) ∧ kind.Form identifier.value.toList ∧
      (kind = .email → identifier.value.toList.count '@' = 1)) ∧
    (∀ value : String, IdentifierKind.Form .email value.toList →
      IdentifierValue.canonical .email value =
        .ok ⟨.email, String.ofList (value.toList.map Char.toLower)⟩) ∧
    (∀ value : String, IdentifierKind.Form .phone value.toList →
      IdentifierValue.canonical .phone value = .ok ⟨.phone, value⟩) ∧
    (∀ value, canonicalPhoneSliced value = some (canonicalPhoneValue value)) ∧
    (∀ before text after before' text' after' : List Char,
      (∀ c ∈ before ++ after ++ before' ++ after', isWhitespace c = true) →
      text.map Char.toLower = text'.map Char.toLower →
      IdentifierValue.canonical .email (String.ofList (before ++ text ++ after)) =
        IdentifierValue.canonical .email (String.ofList (before' ++ text' ++ after'))) ∧
    (∀ value value' : String,
      trim value.toList = trim value'.toList ∨
        (∃ rest rest', trim value.toList = '+' :: rest ∧ trim value'.toList = '+' :: rest' ∧
          byteLength ('+' :: rest) ≤ 64 ∧ byteLength ('+' :: rest') ≤ 64 ∧
          rest.filter (! phoneSeparator ·) = rest'.filter (! phoneSeparator ·)) →
      IdentifierValue.canonical .phone value = IdentifierValue.canonical .phone value') ∧
    ∀ kind kind' value value',
      (Key.identifier kind value).text = (Key.identifier kind' value').text →
      kind = kind' ∧ value = value' := by
  refine ⟨?_, ?_, ?_, canonicalPhoneSliced_eq, ?_, ?_, ?_⟩
  · intro kind value identifier h
    have hascii : ∀ {text : List Char}, (∀ c ∈ text, Visible c) → ∀ c ∈ text, c.toNat < 128 :=
      fun hvisible c hc => Nat.lt_of_le_of_lt (hvisible c hc).2 (by decide)
    cases kind with
    | email =>
      obtain ⟨hkind, hvalue⟩ := IdentifierValue.canonical_email.mp h
      obtain ⟨_, hform⟩ := canonicalEmailValue_eq_ok.mp hvalue
      refine ⟨hkind, ?_, hascii hform.visible, hform, fun _ => hform.count_at⟩
      exact IdentifierValue.canonical_email.mpr ⟨hkind, canonicalEmailValue_fixed hvalue⟩
    | phone =>
      obtain ⟨hkind, hvalue⟩ := IdentifierValue.canonical_phone.mp h
      obtain ⟨_, _, _, _, hform⟩ := canonicalPhoneValue_eq_ok.mp hvalue
      refine ⟨hkind, ?_, hascii hform.visible, hform, IdentifierKind.noConfusion⟩
      exact IdentifierValue.canonical_phone.mpr ⟨hkind, canonicalPhoneValue_of_form hform⟩
  · intro value hform
    exact IdentifierValue.canonical_email.mpr ⟨rfl, canonicalEmailValue_of_form hform⟩
  · intro value hform
    exact IdentifierValue.canonical_phone.mpr ⟨rfl, canonicalPhoneValue_of_form hform⟩
  · intro before text after before' text' after' hblank hcase
    unfold IdentifierValue.canonical
    rw [canonicalEmailValue_congr hblank hcase]
  · rintro value value' (htrim | ⟨rest, rest', htrim, htrim', hshort, hshort', hsame⟩)
    · unfold IdentifierValue.canonical canonicalPhoneValue
      rw [htrim]
    · unfold IdentifierValue.canonical
      rw [canonicalPhoneValue_congr htrim htrim' hshort hshort' hsame]
  · intro kind kind' value value' h
    exact identifier_text_inj h

end RustyAuth
