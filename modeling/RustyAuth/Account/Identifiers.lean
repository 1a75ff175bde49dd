/-
  Canonical identifiers of accounts.

  An identifier is canonical if canonicalising it changes nothing.  Such a value is short and
  consists of visible ASCII characters (`Canonical`), so it passes what is checked of the
  identifiers of a stored account.
-/
import RustyAuth.Store.Events
import RustyAuth.Library.Texts

namespace RustyAuth

open RustyAuth.Library

/-- `MAX_IDENTIFIERS`. -/
def maxIdentifiers : Nat := 20

inductive IdentifierValidationError
  -- "valid email required"
  | email
  -- "phone number must use international E.164 format"
  | phone
deriving DecidableEq

inductive AccountError
  | policy (error : StorePolicyError)
  | identifier (error : IdentifierValidationError)
  | bail (message : String)
  | log (error : EventLogError)
deriving DecidableEq

/-! ## Canonical values -/

/-- The bytes of a text. -/
def byteLength (cs : List Char) : Nat := (String.ofList cs).utf8ByteSize

/-- The characters of the local part of an email address. -/
def emailLocalChar (c : Char) : Bool :=
  c.isAlphanum || "!#$%&'*+-./=?^_\x60\x7b|\x7d~".toList.contains c

def emailLabelChar (c : Char) : Bool := c.isAlphanum || c == '-'

def emailLocalValid (localPart : List Char) : Bool :=
  !localPart.isEmpty && localPart.length ≤ 64 && localPart.head? != some '.' &&
    localPart.getLast? != some '.' && !decide (['.', '.'] <:+: localPart) &&
    localPart.all emailLocalChar

def emailLabelValid (label : List Char) : Bool :=
  !label.isEmpty && label.length ≤ 63 && label.all emailLabelChar &&
    label.head?.any Char.isAlphanum && label.getLast?.any Char.isAlphanum

def emailDomainValid (domain : List Char) : Bool :=
  !domain.isEmpty && domain.length ≤ 253 && !domain.contains '@' &&
    (splitAll '.' domain).all emailLabelValid

/-- Lengths are in bytes; from the first check on the text is ASCII. -/
def canonicalEmailValue (value : String) : Except IdentifierValidationError String := do
  let email := (trim value.toList).map Char.toLower
  ensure (¬(email = [] ∨ 320 < byteLength email ∨ ¬email.all (·.toNat < 128))) .email
  let (localPart, domain) ← okOr (splitOnceAt '@' email) .email
  ensure (emailLocalValid localPart ∧ emailDomainValid domain) .email
  return String.ofList email

/-- `char::is_ascii_whitespace`, and the punctuation of telephone numbers. -/
def phoneSeparator (c : Char) : Bool := [' ', '\t', '\n', '\x0c', '\r', '-', '(', ')', '.'].contains c

def canonicalPhoneValue (value : String) : Except IdentifierValidationError String := do
  let value := trim value.toList
  ensure (byteLength value ≤ 64 ∧ value.head? = some '+') .phone
  ensure (value.tail.all fun c => c.isDigit || phoneSeparator c) .phone
  let digits := value.tail.filter Char.isDigit
  ensure (8 ≤ digits.length ∧ digits.length ≤ 15 ∧ digits.head? ≠ some '0') .phone
  return String.ofList ('+' :: digits)

namespace IdentifierValue

def canonical (kind : IdentifierKind) (value : String) :
    Except IdentifierValidationError IdentifierValue :=
  match kind with
  | .email => (canonicalEmailValue value).map (⟨.email, ·⟩)
  | .phone => (canonicalPhoneValue value).map (⟨.phone, ·⟩)

end IdentifierValue

def requireCanonicalIdentifier (identifier : IdentifierValue) : Except AccountError Unit := do
  let canonical ← (IdentifierValue.canonical identifier.kind identifier.value).mapError .identifier
  ensure (canonical = identifier) (.bail "account identifier is not canonical")

/-- `forbidden_display_character`. -/
def forbiddenDisplayCharacter (c : Char) : Bool :=
  let n := c.toNat
  isControl c || n == 0x200B || (0x202A ≤ n && n ≤ 0x202E) || n == 0x2060 ||
    (0x2066 ≤ n && n ≤ 0x2069) || n == 0xFEFF

/-! ### Canonical values are displayable -/

/-- A visible ASCII character. -/
def Visible (c : Char) : Prop := 0x21 ≤ c.toNat ∧ c.toNat ≤ 0x7E

instance (c : Char) : Decidable (Visible c) := inferInstanceAs (Decidable (_ ∧ _))

theorem visible_of_isAlphanum {c : Char} (h : c.isAlphanum = true) : Visible c := by
  delta Char.isAlphanum Char.isAlpha Char.isUpper Char.isLower Char.isDigit at h
  simp only [ge_iff_le, Bool.or_eq_true, Bool.and_eq_true, decide_eq_true_eq,
    UInt32.le_iff_toNat_le, Char.reduceVal, UInt32.reduceToNat] at h
  have hval : c.toNat = c.val.toNat := rfl
  unfold Visible
  omega

theorem visible_of_isDigit {c : Char} (h : c.isDigit = true) : Visible c := by
  apply visible_of_isAlphanum
  delta Char.isAlphanum
  rw [h, Bool.or_true]

theorem visible_of_emailLocalChar {c : Char} (h : emailLocalChar c = true) : Visible c := by
  rcases Bool.or_eq_true _ _ ▸ h with halnum | hsymbol
  · exact visible_of_isAlphanum halnum
  · have hall : ∀ d ∈ "!#$%&'*+-./=?^_\x60\x7b|\x7d~".toList, Visible d := by
      simp [Visible]
    rw [List.contains_eq_mem, decide_eq_true_eq] at hsymbol
    exact hall c hsymbol

theorem visible_of_emailDomain {domain : List Char} (h : emailDomainValid domain = true) :
    ∀ c ∈ domain, Visible c := by
  unfold emailDomainValid at h
  simp only [Bool.and_eq_true] at h
  intro c hc
  have hsplit : c = '.' ∨ ∃ label ∈ splitAll '.' domain, c ∈ label := mem_splitAll hc
  rcases hsplit with hdot | ⟨label, hlabel, hmem⟩
  · rw [hdot]
    decide
  · have hvalid := List.all_eq_true.mp h.2 label hlabel
    unfold emailLabelValid at hvalid
    simp only [Bool.and_eq_true] at hvalid
    have hchar := List.all_eq_true.mp hvalid.1.1.2 c hmem
    unfold emailLabelChar at hchar
    rcases Bool.or_eq_true _ _ ▸ hchar with halnum | hhyphen
    · exact visible_of_isAlphanum halnum
    · rw [beq_iff_eq.mp hhyphen]
      decide

/-- Every visible character is one byte. -/
theorem utf8ByteSize_ofList_visible {cs : List Char} (h : ∀ c ∈ cs, Visible c) :
    (String.ofList cs).utf8ByteSize = cs.length := by
  induction cs with
  | nil => rfl
  | cons c cs ih =>
    rw [String.ofList_cons, String.utf8ByteSize_append, ih fun d hd => h d (List.mem_cons_of_mem _ hd),
      List.length_cons, String.utf8ByteSize_singleton]
    have hsize : c.utf8Size = 1 := by
      have hvisible := (h c List.mem_cons_self).2
      have hval : c.toNat = c.val.toNat := rfl
      unfold Char.utf8Size
      rw [if_pos]
      rw [UInt32.le_iff_toNat_le]
      exact Nat.le_trans (hval ▸ hvisible) (by decide)
    omega

end RustyAuth
