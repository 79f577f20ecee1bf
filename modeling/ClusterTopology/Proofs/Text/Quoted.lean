import ClusterTopology.Text.Quoted
import Mathlib.Data.Nat.Digits.Defs

/-!
# Quoted text tells the text

A text can be told from the way it is quoted, so no two names read alike in a message. The first
character of a quoted text is its quote, and between the quotes each character begins in a way of
its own: as itself, or with a backslash after which one more character tells the form and how long
it is.
-/

namespace ClusterTopology.Text

theorem hexDigit_inj {m n : Nat} (small : m < 16) (smallToo : n < 16)
    (same : hexDigit m = hexDigit n) : m = n := by
  have distinct : ∀ m < 16, ∀ n < 16, hexDigit m = hexDigit n → m = n := by decide
  exact distinct m small n smallToo same

theorem length_hexPadded (width n : Nat) : (hexPadded width n).length = width := by
  induction width generalizing n with
  | zero => rfl
  | succ width ih => rw [hexPadded, List.length_append, ih, List.length_singleton]

/-- Digits enough for both numbers tell them apart. -/
theorem hexPadded_inj {width m n : Nat} (fits : m < 16 ^ width) (fitsToo : n < 16 ^ width)
    (same : hexPadded width m = hexPadded width n) : m = n := by
  induction width generalizing m n with
  | zero => omega
  | succ width ih =>
    rw [Nat.pow_succ] at fits fitsToo
    rw [hexPadded, hexPadded] at same
    obtain ⟨front, last⟩ := List.append_inj' same rfl
    have high : m / 16 = n / 16 := ih (by omega) (by omega) front
    have low : m % 16 = n % 16 :=
      hexDigit_inj (Nat.mod_lt _ (by omega)) (Nat.mod_lt _ (by omega)) (List.cons.inj last).1
    omega

/-- A quote that texts are put between. -/
def IsQuote (quote : Char) : Prop :=
  quote = '\'' ∨ quote = '"'

/-- The characters that are shown by one character after a backslash, each with that one. -/
def briefForms (quote : Char) : List (Char × Char) :=
  [(quote, quote), ('\\', '\\'), ('\n', 'n'), ('\r', 'r'), ('\t', 't')]

/-- The characters that announce a code point after a backslash, each with the number of digits. -/
def codeForms : List (Char × Nat) := [('x', 2), ('u', 4), ('U', 8)]

/-- What comes after a backslash, for a character that is not shown as itself. -/
inductive Escape (quote : Char) : Char → List Char → Prop where
  | brief {c tag : Char} (listed : (c, tag) ∈ briefForms quote) : Escape quote c [tag]
  | code {c tag : Char} {width : Nat} (listed : (tag, width) ∈ codeForms)
    (fits : c.toNat < 16 ^ width) : Escape quote c (tag :: hexPadded width c.toNat)

section Char

variable {quote c d : Char}

theorem isQuote_quoteFor (cs : List Char) : IsQuote (quoteFor cs) := by
  rw [quoteFor]
  split
  · exact .inr rfl
  · exact .inl rfl

theorem exists_escape_codePoint (quote c : Char) :
    ∃ form, Escape quote c form ∧ codePointEscape c.toNat = '\\' :: form := by
  rw [codePointEscape]
  split
  · next fits => exact ⟨_, .code (by simp [codeForms]) fits, rfl⟩
  split
  · next fits => exact ⟨_, .code (by simp [codeForms]) fits, rfl⟩
  · have fits : c.toNat < 16 ^ 8 := c.val.toNat_lt
    exact ⟨_, .code (by simp [codeForms]) fits, rfl⟩

/-- A character is shown as itself, or with a backslash and a form of it. -/
theorem quotedChar_cases (quote c : Char) : quotedChar quote c = [c] ∧ c ≠ '\\' ∨
    ∃ form, Escape quote c form ∧ quotedChar quote c = '\\' :: form := by
  rw [quotedChar]
  split
  · next own =>
    have listed : (c, c) ∈ briefForms quote := by
      rcases (by simpa using own : c = quote ∨ c = '\\') with rfl | rfl <;> simp [briefForms]
    exact .inr ⟨_, .brief listed, rfl⟩
  split
  · next feed => exact .inr ⟨_, .brief (by simp [briefForms, feed]), rfl⟩
  split
  · next feed => exact .inr ⟨_, .brief (by simp [briefForms, feed]), rfl⟩
  split
  · next feed => exact .inr ⟨_, .brief (by simp [briefForms, feed]), rfl⟩
  split
  · next other _ _ _ _ => exact .inl ⟨rfl, fun same => other (by simp [same])⟩
  · exact .inr (exists_escape_codePoint quote c)

/-- No two characters have the same brief form. -/
theorem eq_of_briefForms {tag : Char} (isQuote : IsQuote quote)
    (listed : (c, tag) ∈ briefForms quote) (listedToo : (d, tag) ∈ briefForms quote) : c = d := by
  rcases isQuote with rfl | rfl
  · simp only [briefForms, List.mem_cons, Prod.mk.injEq, List.not_mem_nil, or_false] at *
    grind
  · simp only [briefForms, List.mem_cons, Prod.mk.injEq, List.not_mem_nil, or_false] at *
    grind

/-- No brief form looks like a code point. -/
theorem codeForms_disjoint {tag : Char} {width : Nat} (isQuote : IsQuote quote)
    (listed : (c, tag) ∈ briefForms quote) : (tag, width) ∉ codeForms := by
  intro listedToo
  rcases isQuote with rfl | rfl
  · simp only [briefForms, codeForms, List.mem_cons, Prod.mk.injEq, List.not_mem_nil,
      or_false] at *
    grind
  · simp only [briefForms, codeForms, List.mem_cons, Prod.mk.injEq, List.not_mem_nil,
      or_false] at *
    grind

theorem eq_of_codeForms {tag : Char} {width other : Nat} (listed : (tag, width) ∈ codeForms)
    (listedToo : (tag, other) ∈ codeForms) : width = other := by
  simp only [codeForms, List.mem_cons, Prod.mk.injEq, List.not_mem_nil, or_false] at *
  grind

/-- The first character after a backslash tells which form it is of, and so where that ends. -/
theorem Escape.append_inj {form other rest more : List Char} (isQuote : IsQuote quote)
    (shows : Escape quote c form) (showsToo : Escape quote d other)
    (same : form ++ rest = other ++ more) : c = d ∧ rest = more := by
  cases shows with
  | brief listed =>
    cases showsToo with
    | brief listedToo =>
      obtain ⟨rfl, rest⟩ := List.cons.inj same
      exact ⟨eq_of_briefForms isQuote listed listedToo, rest⟩
    | code listedToo =>
      obtain ⟨rfl, -⟩ := List.cons.inj same
      exact absurd listedToo (codeForms_disjoint isQuote listed)
  | code listed fits =>
    cases showsToo with
    | brief listedToo =>
      obtain ⟨rfl, -⟩ := List.cons.inj same
      exact absurd listed (codeForms_disjoint isQuote listedToo)
    | code listedToo fitsToo =>
      obtain ⟨rfl, digits⟩ := List.cons.inj same
      obtain rfl := eq_of_codeForms listed listedToo
      obtain ⟨number, rest⟩ := List.append_inj digits (by simp only [length_hexPadded])
      exact ⟨Char.toNat_inj.1 (hexPadded_inj fits fitsToo number), rest⟩

/-- Between quotes, where one character ends tells itself. -/
theorem quotedChar_append_inj {rest more : List Char} (isQuote : IsQuote quote)
    (same : quotedChar quote c ++ rest = quotedChar quote d ++ more) : c = d ∧ rest = more := by
  rcases quotedChar_cases quote c with ⟨self, plain⟩ | ⟨form, shows, escaped⟩ <;>
    rcases quotedChar_cases quote d with ⟨selfToo, plainToo⟩ | ⟨other, showsToo, escapedToo⟩
  · rw [self, selfToo] at same
    exact List.cons.inj same
  · rw [self, escapedToo] at same
    exact absurd (List.cons.inj same).1 plain
  · rw [escaped, selfToo] at same
    exact absurd (List.cons.inj same).1.symm plainToo
  · rw [escaped, escapedToo] at same
    exact shows.append_inj isQuote showsToo (List.cons.inj same).2

end Char

theorem quotedChar_ne_nil (quote c : Char) : quotedChar quote c ≠ [] := by
  rcases quotedChar_cases quote c with ⟨self, -⟩ | ⟨form, -, escaped⟩
  · rw [self]
    exact List.cons_ne_nil _ _
  · rw [escaped]
    exact List.cons_ne_nil _ _

theorem flatMap_quotedChar_inj {quote : Char} (isQuote : IsQuote quote) {cs ds : List Char}
    (same : cs.flatMap (quotedChar quote) = ds.flatMap (quotedChar quote)) : cs = ds := by
  induction cs generalizing ds with
  | nil =>
    cases ds with
    | nil => rfl
    | cons d ds => simp [quotedChar_ne_nil] at same
  | cons c cs ih =>
    cases ds with
    | nil => simp [quotedChar_ne_nil] at same
    | cons d ds =>
      rw [List.flatMap_cons, List.flatMap_cons] at same
      obtain ⟨rfl, rest⟩ := quotedChar_append_inj isQuote same
      rw [ih rest]

/-- Quoted texts are equal only if the texts are. -/
theorem quoted_injective : Function.Injective quoted := by
  intro s t same
  have chars : quotedChars s.toList = quotedChars t.toList := String.ofList_injective same
  obtain ⟨quote, rest⟩ := List.cons.inj chars
  rw [quote] at rest
  have inside := List.append_cancel_right rest
  exact String.toList_inj.1 (flatMap_quotedChar_inj (isQuote_quoteFor _) inside)

end ClusterTopology.Text
