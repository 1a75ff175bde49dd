/-
  Texts, the functions of Rust on them, and the tables of prefixes they are looked up in.

  A table that classifies texts by their beginning cannot tell two texts apart that share a
  head, as long as no entry of the table goes beyond the head (`Apart`).
-/
import Mathlib.Data.List.Infix
import Mathlib.Data.List.DropRight

namespace RustyAuth.Library

/-- `str::starts_with`. -/
def startsWith (text head : String) : Bool := head.toList.isPrefixOf text.toList

/-- `text.starts_with(head) && text.len() > head.len()`. -/
def startsFamily (text head : String) : Bool :=
  startsWith text head && decide (head.utf8ByteSize < text.utf8ByteSize)

/-- `str::ends_with`. -/
def endsWith (text tail : String) : Bool := tail.toList.isSuffixOf text.toList

/-- `str::contains` of a text. -/
def includes (text piece : String) : Bool :=
  text.toList.tails.any fun rest => piece.toList.isPrefixOf rest

theorem startsWith_iff (text head : String) :
    startsWith text head = true ↔ ∃ rest, text = head ++ rest := by
  unfold startsWith
  rw [List.isPrefixOf_iff_prefix]
  constructor
  · rintro ⟨rest, h⟩
    refine ⟨String.ofList rest, ?_⟩
    rw [← String.toList_inj, String.toList_append, String.toList_ofList, h]
  · rintro ⟨rest, rfl⟩
    rw [String.toList_append]
    exact List.prefix_append _ _

theorem includes_iff (text piece : String) :
    includes text piece = true ↔ piece.toList <:+: text.toList := by
  unfold includes
  rw [List.any_eq_true, List.infix_iff_prefix_suffix]
  constructor
  · rintro ⟨rest, hrest, hpiece⟩
    exact ⟨rest, List.isPrefixOf_iff_prefix.mp hpiece, (List.mem_tails _ _).mp hrest⟩
  · rintro ⟨rest, hpiece, hrest⟩
    exact ⟨rest, (List.mem_tails _ _).mpr hrest, List.isPrefixOf_iff_prefix.mpr hpiece⟩

/-- A text includes the pieces of its beginning. -/
theorem includes_of_startsWith {text head piece : String} (h : startsWith text head = true)
    (hhead : includes head piece = true) : includes text piece = true := by
  obtain ⟨rest, rfl⟩ := (startsWith_iff text head).mp h
  rw [includes_iff, String.toList_append]
  exact ((includes_iff head piece).mp hhead).trans (List.infix_append [] head.toList rest.toList)

/-- No text that begins with `head` and goes on is an entry, or begins with an entry, that
    goes beyond `head`. -/
def Apart (head : String) (entries : List String) : Bool :=
  entries.all fun entry => startsWith head entry || !startsWith entry head

theorem startsWith_append {head entry : String}
    (h : (startsWith head entry || !startsWith entry head) = true) (rest : String) :
    startsWith (head ++ rest) entry = startsWith head entry := by
  rw [Bool.eq_iff_iff, startsWith_iff, startsWith_iff]
  constructor
  · rintro ⟨tail, htail⟩
    rcases Bool.or_eq_true _ _ ▸ h with hentry | hhead
    · exact (startsWith_iff _ _).mp hentry
    · -- both begin the same text, so one begins the other
      have hlists : head.toList ++ rest.toList = entry.toList ++ tail.toList := by
        rw [← String.toList_append, ← String.toList_append, htail]
      rcases List.prefix_or_prefix_of_prefix (List.prefix_append _ rest.toList)
          (hlists ▸ List.prefix_append entry.toList tail.toList) with hle | hle
      · rw [Bool.not_eq_true', startsWith, List.isPrefixOf_iff_prefix.mpr hle] at hhead
        cases hhead
      · exact (startsWith_iff _ _).mp (List.isPrefixOf_iff_prefix.mpr hle)
  · rintro ⟨tail, rfl⟩
    exact ⟨tail ++ rest, by rw [String.append_assoc]⟩

theorem utf8ByteSize_pos {text : String} (h : text ≠ "") : 0 < text.utf8ByteSize := by
  rw [Nat.pos_iff_ne_zero]
  intro h0
  exact h (String.utf8ByteSize_eq_zero_iff.mp h0)

theorem startsFamily_append {head entry : String}
    (h : (startsWith head entry || !startsWith entry head) = true) {rest : String}
    (hrest : rest ≠ "") : startsFamily (head ++ rest) entry = startsWith head entry := by
  unfold startsFamily
  rw [startsWith_append h, Bool.and_eq_left_iff_imp]
  intro hentry
  obtain ⟨tail, rfl⟩ := (startsWith_iff _ _).mp hentry
  have hpos := utf8ByteSize_pos hrest
  rw [decide_eq_true_iff, String.utf8ByteSize_append, String.utf8ByteSize_append]
  omega

/-! ## Tables -/

theorem contains_append {head : String} {keys : List String}
    (h : keys.all (fun key => !startsWith key head) = true) (rest : String) :
    keys.contains (head ++ rest) = false := by
  rw [List.contains_eq_mem, decide_eq_false_iff_not]
  intro hmem
  have hnot := List.all_eq_true.mp h _ hmem
  rw [Bool.not_eq_true', ← Bool.not_eq_true, startsWith_iff] at hnot
  exact hnot ⟨rest, rfl⟩

theorem any_startsWith_append {head : String} {entries : List String}
    (h : Apart head entries = true) (rest : String) :
    entries.any (startsWith (head ++ rest)) = entries.any (startsWith head) := by
  rw [Bool.eq_iff_iff, List.any_eq_true, List.any_eq_true]
  apply exists_congr
  intro entry
  apply and_congr_right
  intro hentry
  rw [startsWith_append (List.all_eq_true.mp h entry hentry)]

theorem any_startsFamily_append {head : String} {entries : List String}
    (h : Apart head entries = true) {rest : String} (hrest : rest ≠ "") :
    entries.any (startsFamily (head ++ rest)) = entries.any (startsWith head) := by
  rw [Bool.eq_iff_iff, List.any_eq_true, List.any_eq_true]
  apply exists_congr
  intro entry
  apply and_congr_right
  intro hentry
  rw [startsFamily_append (List.all_eq_true.mp h entry hentry) hrest]

/-! ## Characters -/

/-- `char::is_whitespace`, the property White_Space. -/
def isWhitespace (c : Char) : Bool :=
  let n := c.toNat
  (9 ≤ n && n ≤ 13) || n == 0x20 || n == 0x85 || n == 0xA0 || n == 0x1680 ||
    (0x2000 ≤ n && n ≤ 0x200A) || n == 0x2028 || n == 0x2029 || n == 0x202F || n == 0x205F ||
    n == 0x3000

/-- `char::is_control`, the category Cc. -/
def isControl (c : Char) : Bool := c.toNat < 0x20 || (0x7F ≤ c.toNat && c.toNat < 0xA0)

/-- `str::trim`. -/
def trim (cs : List Char) : List Char := (cs.dropWhile isWhitespace).rdropWhile isWhitespace

/-- `str::split_once` at a character. -/
def splitOnceAt (separator : Char) : List Char → Option (List Char × List Char)
  | [] => none
  | c :: cs =>
      if c = separator then some ([], cs)
      else (splitOnceAt separator cs).map fun (before, after) => (c :: before, after)

/-- `str::split` at a character. -/
def splitAll (separator : Char) : List Char → List (List Char)
  | [] => [[]]
  | c :: cs =>
      if c = separator then [] :: splitAll separator cs
      else
        match splitAll separator cs with
        | [] => [[c]]
        | part :: parts => (c :: part) :: parts

theorem splitOnceAt_eq_some {separator : Char} {cs : List Char} :
    ∀ {before after : List Char}, splitOnceAt separator cs = some (before, after) →
      cs = before ++ separator :: after := by
  induction cs with
  | nil =>
    intro before after h
    cases h
  | cons c cs ih =>
    intro before after h
    unfold splitOnceAt at h
    split at h
    · next hc =>
      cases h
      rw [hc]; rfl
    · obtain ⟨⟨before', after'⟩, hrest, hcons⟩ := Option.map_eq_some_iff.mp h
      cases hcons
      rw [ih hrest]; rfl

theorem mem_splitAll {separator : Char} {cs : List Char} {c : Char} (h : c ∈ cs) :
    c = separator ∨ ∃ part ∈ splitAll separator cs, c ∈ part := by
  induction cs with
  | nil => cases h
  | cons d cs ih =>
    unfold splitAll
    split
    · next hd =>
      rcases List.mem_cons.mp h with rfl | hmem
      · exact Or.inl hd
      · rcases ih hmem with hsep | ⟨part, hpart, hc⟩
        · exact Or.inl hsep
        · exact Or.inr ⟨part, List.mem_cons_of_mem _ hpart, hc⟩
    · split
      · next hnil =>
        rcases List.mem_cons.mp h with rfl | hmem
        · exact Or.inr ⟨[c], List.mem_cons_self, List.mem_cons_self⟩
        · rcases ih hmem with hsep | ⟨part, hpart, hc⟩
          · exact Or.inl hsep
          · rw [hnil] at hpart
            cases hpart
      · next part parts hparts =>
        rcases List.mem_cons.mp h with rfl | hmem
        · exact Or.inr ⟨c :: part, List.mem_cons_self, List.mem_cons_self⟩
        · rcases ih hmem with hsep | ⟨other, hother, hc⟩
          · exact Or.inl hsep
          · rw [hparts] at hother
            rcases List.mem_cons.mp hother with rfl | hother
            · exact Or.inr ⟨d :: other, List.mem_cons_self, List.mem_cons_of_mem _ hc⟩
            · exact Or.inr ⟨other, List.mem_cons_of_mem _ hother, hc⟩

end RustyAuth.Library
