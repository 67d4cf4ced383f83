import Mathlib.Data.List.DropRight

/-! # Separated lists in a text column

Values written one after the other with a separator between them, blanks around a value and empty
values tolerated.

* **Trimming**: `trimBy p`; `trimSpace` for white space in the sense of Unicode, `trimChar` for one
  character.
* **Splitting**: `split sep` keeps every piece as it stands; `fields sep` trims every piece and
  drops the empty ones. They agree on texts whose pieces are all `Clean` (`fields_eq_split`).
* **Numbers**: the text of an integer determines it and has no separator in it. -/

namespace RenewApi.Text

open List

variable {c : Char} {v : Int}

section

variable {α : Type*} (p : α → Bool)

/-- Remove the elements that satisfy `p` from both ends. -/
def trimBy (l : List α) : List α := (l.dropWhile p).rdropWhile p

/-- A list that `dropWhile` leaves alone keeps that property when its end is cut. -/
theorem dropWhile_rdropWhile {l : List α} (h : l.dropWhile p = l) :
    (l.rdropWhile p).dropWhile p = l.rdropWhile p := by
  obtain ⟨t, ht⟩ := rdropWhile_prefix p l
  cases hcut : l.rdropWhile p with
  | nil => rfl
  | cons x xs =>
    -- the cut list starts with the head of `l`, and that head does not satisfy `p`
    rw [hcut, cons_append] at ht
    have hx : p x = false := by
      by_contra hpx
      rw [Bool.not_eq_false] at hpx
      rw [← ht, dropWhile_cons_of_pos hpx] at h
      have hlen := congrArg length h
      have hle := (dropWhile_suffix p (l := xs ++ t)).length_le
      simp only [length_cons] at hlen
      omega
    exact dropWhile_cons_of_neg (by simp [hx])

theorem trimBy_trimBy (l : List α) : trimBy p (trimBy p l) = trimBy p l := by
  have h := dropWhile_rdropWhile p (dropWhile_idempotent p l)
  rw [trimBy, trimBy, h, rdropWhile_idempotent]

end

/-- White space as Unicode defines it (the property `White_Space`). -/
def isSpace (c : Char) : Bool :=
  let n := c.toNat
  (9 ≤ n && n ≤ 13) || n == 0x20 || n == 0x85 || n == 0xA0 || n == 0x1680 ||
    (0x2000 ≤ n && n ≤ 0x200A) || n == 0x2028 || n == 0x2029 || n == 0x202F || n == 0x205F ||
    n == 0x3000

/-- The text without white space at either end. -/
def trimSpace (s : String) : String := String.ofList (trimBy isSpace s.toList)

/-- The text without the character `c` at either end. -/
def trimChar (c : Char) (s : String) : String := String.ofList (trimBy (· == c) s.toList)

variable {pieces : List String} (sep : Char) (s : String) (l : List Char) {x : String}

@[simp] theorem trimSpace_trimSpace : trimSpace (trimSpace s) = trimSpace s := by
  rw [trimSpace, trimSpace, String.toList_ofList, trimBy_trimBy]

/-! ## Splitting -/

/-- Cut the text at every separator. -/
def split (sep : Char) (s : String) : List String := (s.toList.splitOn sep).map String.ofList

/-- A piece that stands for itself: neither empty nor surrounded by white space. -/
def Clean (piece : String) : Prop := piece ≠ "" ∧ trimSpace piece = piece
  deriving Decidable

/-- Trim every piece and drop those that turn out empty. -/
def tidy (pieces : List String) : List String := (pieces.map trimSpace).filter (· ≠ "")

/-- **Fields** of a separated list: its pieces, trimmed, without the empty ones. -/
def fields (sep : Char) (s : String) : List String := tidy (split sep s)

@[simp] theorem mem_tidy : x ∈ tidy pieces ↔ (∃ piece ∈ pieces, trimSpace piece = x) ∧ x ≠ "" := by
  simp [tidy]

theorem tidy_append (l l' : List String) : tidy (l ++ l') = tidy l ++ tidy l' := by
  simp [tidy]

@[simp] theorem tidy_empty : tidy [""] = [] := by decide

theorem clean_of_mem_fields {sep : Char} {s : String} (h : x ∈ fields sep s) : Clean x := by
  obtain ⟨⟨piece, -, rfl⟩, hne⟩ := mem_tidy.mp h
  exact ⟨hne, trimSpace_trimSpace piece⟩

theorem fields_eq_split {sep : Char} {s : String} (h : ∀ piece ∈ split sep s, Clean piece) :
    fields sep s = split sep s := by
  have htrim : (split sep s).map trimSpace = split sep s := by
    rw [map_congr_left fun x hx => (h x hx).2, map_id']
  rw [fields, tidy, htrim, filter_eq_self]
  intro x hx
  simpa using (h x hx).1

/-! ## Separators at the ends -/

/-- The fields of a list of characters. -/
private def fieldsOf (sep : Char) (l : List Char) : List String :=
  tidy ((l.splitOn sep).map String.ofList)

private theorem fieldsOf_append (l' : List Char) :
    fieldsOf sep (l ++ sep :: l') = fieldsOf sep l ++ fieldsOf sep l' := by
  rw [fieldsOf, splitOn_append_cons_self, map_append, tidy_append]
  rfl

private theorem fieldsOf_nil : fieldsOf sep [] = [] := by
  exact tidy_empty

private theorem fieldsOf_dropWhile : fieldsOf sep (l.dropWhile (· == sep)) = fieldsOf sep l := by
  induction l with
  | nil => rfl
  | cons x xs ih =>
    by_cases hx : x = sep
    · subst hx
      rw [dropWhile_cons_of_pos (by simp), ih]
      have h := fieldsOf_append x [] xs
      exact h.symm
    · rw [dropWhile_cons_of_neg (by simpa using hx)]

private theorem fieldsOf_rdropWhile : fieldsOf sep (l.rdropWhile (· == sep)) = fieldsOf sep l := by
  induction l using reverseRecOn with
  | nil => rfl
  | append_singleton xs x ih =>
    rw [rdropWhile_concat]
    by_cases hx : x = sep
    · subst hx
      rw [if_pos (by simp), ih, fieldsOf_append, fieldsOf_nil, append_nil]
    · rw [if_neg (by simpa using hx)]

/-- **Separators at either end of the text do not change its fields.** -/
@[simp] theorem fields_trimChar : fields sep (trimChar sep s) = fields sep s := by
  show fieldsOf sep (trimChar sep s).toList = fieldsOf sep s.toList
  rw [trimChar, String.toList_ofList, trimBy, fieldsOf_rdropWhile, fieldsOf_dropWhile]

@[simp] theorem fields_empty : fields sep "" = [] := fieldsOf_nil sep

example : fields ',' ",default, vip ,," = ["default", "vip"] := by decide

example : split ',' "default, vip" = ["default", " vip"] := by decide

/-! ## Numbers and separators -/

theorem append_cons_inj_of_last {α : Type*} {xs xs' ys ys' : List α} {c : α} (hys : c ∉ ys)
    (hys' : c ∉ ys') (h : xs ++ c :: ys = xs' ++ c :: ys') : xs = xs' ∧ ys = ys' := by
  rcases append_eq_append_iff.mp h with ⟨as, hxs, htail⟩ | ⟨as, hxs, htail⟩
  · cases as with
    | nil =>
      rw [nil_append, cons.injEq] at htail
      exact ⟨by rw [hxs, append_nil], htail.2⟩
    | cons a as =>
      rw [cons_append, cons.injEq] at htail
      exact absurd (by rw [htail.2]; simp) hys
  · cases as with
    | nil =>
      rw [nil_append, cons.injEq] at htail
      exact ⟨by rw [hxs, append_nil], htail.2.symm⟩
    | cons a as =>
      rw [cons_append, cons.injEq] at htail
      exact absurd (by rw [htail.2]; simp) hys'

theorem isDigit_of_mem_repr {n : Nat} (h : c ∈ n.repr.toList) : c.isDigit = true := by
  rw [Nat.repr_eq_ofList_toDigits, String.toList_ofList] at h
  exact Nat.isDigit_of_mem_toDigits (by decide) (by decide) h

theorem mem_toString_int (h : c ∈ (toString v).toList) : c.isDigit = true ∨ c = '-' := by
  have h' : c ∈ v.repr.toList := h
  cases v with
  | ofNat n => exact .inl (isDigit_of_mem_repr h')
  | negSucc n =>
    rw [Int.repr, String.toList_append, mem_append] at h'
    rcases h' with hminus | hdigits
    · exact .inr (mem_singleton.mp hminus)
    · exact .inl (isDigit_of_mem_repr hdigits)

/-- Integers differ in their texts. -/
theorem toString_int_injective {w : Int} (h : toString v = toString w) : v = w := by
  have hnat : ∀ m n : Nat, m.repr.toList = n.repr.toList → m = n := by
    intro m n hmn
    have hvalue := congrArg (fun cs => Nat.ofDigitChars 10 cs 0) hmn
    simpa [Nat.repr_eq_ofList_toDigits] using hvalue
  -- the text of a natural number does not start with a minus sign
  have hminus : ∀ m n : Nat, m.repr.toList ≠ '-' :: n.repr.toList := by
    intro m n hmn
    have hmem : '-' ∈ m.repr.toList := by rw [hmn]; exact mem_cons_self
    exact absurd (isDigit_of_mem_repr hmem) (by decide)
  have hneg : ∀ n : Nat, (Int.negSucc n).repr.toList = '-' :: n.succ.repr.toList := by
    simp [Int.repr]
  have hlist : v.repr.toList = w.repr.toList := congrArg String.toList h
  cases v with
  | ofNat m =>
    cases w with
    | ofNat n => rw [hnat m n hlist]
    | negSucc n =>
      rw [hneg] at hlist
      exact absurd hlist (hminus m _)
  | negSucc m =>
    rw [hneg] at hlist
    cases w with
    | ofNat n => exact absurd hlist.symm (hminus n _)
    | negSucc n =>
      rw [hneg, cons.injEq] at hlist
      rw [Nat.succ.inj (hnat _ _ hlist.2)]

theorem isSpace_of_mem_toString_int (h : c ∈ (toString v).toList) : isSpace c = false := by
  rcases mem_toString_int h with hdigit | rfl
  · have hrange : 48 ≤ c.toNat ∧ c.toNat ≤ 57 := by
      simpa [Char.isDigit, UInt32.le_iff_toNat_le] using hdigit
    simp only [isSpace, Bool.or_eq_false_iff, Bool.and_eq_false_iff, decide_eq_false_iff_not,
      beq_eq_false_iff_ne]
    omega
  · decide

theorem colon_notMem_toString_int (v : Int) : ':' ∉ (toString v).toList := by
  intro h
  rcases mem_toString_int h with hdigit | hminus
  · exact absurd hdigit (by decide)
  · exact absurd hminus (by decide)

end RenewApi.Text
