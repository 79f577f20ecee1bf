import Mathlib.Data.List.TakeWhile
import Mathlib.Tactic.Ring
import ClusterTopology.Json.Reader

/-!
# What JSON can hold

An integer that is too long to be written is also too long to be read, and no more collections are
read within each other than are shown; so every value of a JSON text can be shown.
-/

namespace ClusterTopology

namespace Number

theorem toNat_of_isDigit {c : Char} (digit : isDigit c) : c.toNat - 48 < 10 := by
  have bounds : '0' ≤ c ∧ c ≤ '9' := by simpa [isDigit] using digit
  have upper : c.toNat ≤ 57 := bounds.2
  omega

/-- A run of digits is less than the power of ten that has one more digit. -/
theorem digitsValue_lt {cs : List Char} (digits : ∀ c ∈ cs, isDigit c) :
    digitsValue cs < 10 ^ cs.length := by
  have fold (value : Nat) (cs : List Char) (digits : ∀ c ∈ cs, isDigit c) :
      cs.foldl (fun value c => value * 10 + (c.toNat - 48)) value <
        (value + 1) * 10 ^ cs.length := by
    induction cs generalizing value with
    | nil => simp
    | cons c cs ih =>
      have small := toNat_of_isDigit (digits c (.head _))
      calc (c :: cs).foldl (fun value c => value * 10 + (c.toNat - 48)) value
          < (value * 10 + (c.toNat - 48) + 1) * 10 ^ cs.length :=
            ih _ fun d found => digits d (.tail _ found)
        _ ≤ ((value + 1) * 10) * 10 ^ cs.length := Nat.mul_le_mul_right _ (by omega)
        _ = (value + 1) * 10 ^ (c :: cs).length := by
            rw [List.length_cons, pow_succ]
            ring
  simpa [digitsValue] using fold 0 cs digits

theorem digitsValue_lt_pow {cs : List Char} (digits : ∀ c ∈ cs, isDigit c) {k : Nat}
    (short : cs.length ≤ k) : digitsValue cs < Nat.pow 10 k :=
  Nat.lt_of_lt_of_le (digitsValue_lt digits) (Nat.pow_le_pow_right (by decide) short)

end Number

@[simp]
theorem Scalar.hidden?_eq_none {s : Scalar} : s.hidden? = none ↔ s.isShowable = true := by
  simp [hidden?]

namespace Value

theorem hiddenItems?_eq_none {room : Nat} {items : List Value} :
    hiddenItems? room items = none ↔ ∀ item ∈ items, item.hidden? room = none := by
  induction items with
  | nil => simp [hiddenItems?]
  | cons item rest ih => simp [hiddenItems?, ih]

/-- Within a collection there is room for one collection less. -/
theorem ite_tooDeep_eq_none {room : Nat} {inner : Option ShowError} :
    (if room = 0 then some .tooDeep else inner) = none ↔ room ≠ 0 ∧ inner = none := by
  split
  · next full => simp [full]
  · next left => simp [left]

mutual

/-- With more room a value can be shown as well. -/
theorem hidden?_mono {room more : Nat} (le : room ≤ more) :
    ∀ {value : Value}, value.hidden? room = none → value.hidden? more = none
  | .scalar s, shown => shown
  | .list items, shown => by
    obtain ⟨left, shown⟩ := ite_tooDeep_eq_none.1 shown
    exact ite_tooDeep_eq_none.2 ⟨by omega, hiddenItems?_mono (by omega) shown⟩
  | .map entries, shown => by
    obtain ⟨left, shown⟩ := ite_tooDeep_eq_none.1 shown
    exact ite_tooDeep_eq_none.2 ⟨by omega, hiddenEntries?_mono (by omega) shown⟩
  | .set members, shown => by
    obtain ⟨left, shown⟩ := ite_tooDeep_eq_none.1 shown
    exact ite_tooDeep_eq_none.2 ⟨by omega, shown⟩
  | .pair key value, shown => by
    obtain ⟨left, shown⟩ := ite_tooDeep_eq_none.1 shown
    obtain ⟨first, second⟩ := Option.or_eq_none_iff.1 shown
    exact ite_tooDeep_eq_none.2 ⟨by omega, Option.or_eq_none_iff.2
      ⟨hidden?_mono (by omega) first, hidden?_mono (by omega) second⟩⟩
  | .again _, _ => rfl

theorem hiddenItems?_mono {room more : Nat} (le : room ≤ more) : ∀ {items : List Value},
    hiddenItems? room items = none → hiddenItems? more items = none
  | [], _ => rfl
  | item :: rest, shown => by
    obtain ⟨first, shown⟩ := Option.or_eq_none_iff.1 shown
    exact Option.or_eq_none_iff.2 ⟨hidden?_mono le first, hiddenItems?_mono le shown⟩

theorem hiddenEntries?_mono {room more : Nat} (le : room ≤ more) :
    ∀ {entries : List (Scalar × Value)},
      hiddenEntries? room entries = none → hiddenEntries? more entries = none
  | [], _ => rfl
  | (key, value) :: rest, shown => by
    obtain ⟨first, shown⟩ := Option.or_eq_none_iff.1 shown
    obtain ⟨name, first⟩ := Option.or_eq_none_iff.1 first
    exact Option.or_eq_none_iff.2 ⟨Option.or_eq_none_iff.2 ⟨name, hidden?_mono le first⟩,
      hiddenEntries?_mono le shown⟩

end

theorem hiddenEntries?_insert {room : Nat} {entries : Entries Scalar Value} {key : Scalar}
    {value : Value} (before : hiddenEntries? room entries = none)
    (keyShown : key.isShowable = true) (valueShown : value.hidden? room = none) :
    hiddenEntries? room (Entries.insert entries key value) = none := by
  induction entries with
  | nil => simp [Entries.insert, hiddenEntries?, keyShown, valueShown]
  | cons entry rest ih =>
    obtain ⟨other, old⟩ := entry
    simp only [hiddenEntries?, Option.or_eq_none_iff] at before
    rw [Entries.insert]
    split
    · simp [hiddenEntries?, before, valueShown]
    · simp [hiddenEntries?, before, ih before.2]

theorem isShowable_map_iff {entries : Entries Scalar Value} :
    (Value.map entries).isShowable = true ↔ hiddenEntries? (maxDepth - 1) entries = none := by
  rw [isShowable, Option.isNone_iff_eq_none, hidden?, ite_tooDeep_eq_none]
  exact and_iff_right (by decide)

/-- The values of a mapping that can be shown can be shown. -/
theorem isShowable_of_get? {entries : Entries Scalar Value} {key : Scalar} {value : Value}
    (shown : (Value.map entries).isShowable = true)
    (found : Entries.get? entries key = some value) : value.isShowable = true := by
  rw [isShowable_map_iff] at shown
  induction entries with
  | nil => cases found
  | cons entry rest ih =>
    obtain ⟨other, held⟩ := entry
    simp only [hiddenEntries?, Option.or_eq_none_iff] at shown
    rw [Entries.get?] at found
    split at found
    · cases found
      exact Option.isNone_iff_eq_none.2 (hidden?_mono (Nat.sub_le maxDepth 1) shown.1.2)
    · exact ih shown.2 found

theorem isShowable_update {entries more : Entries Scalar Value}
    (before : (Value.map entries).isShowable = true) (after : (Value.map more).isShowable = true) :
    (Value.map (Entries.update entries more)).isShowable = true := by
  rw [isShowable_map_iff] at before after ⊢
  induction more generalizing entries with
  | nil => exact before
  | cons entry more ih =>
    obtain ⟨key, value⟩ := entry
    simp only [hiddenEntries?, Option.or_eq_none_iff, Scalar.hidden?_eq_none] at after
    rw [Entries.update_cons]
    exact ih (hiddenEntries?_insert before after.1.1 after.1.2) after.2

end Value

namespace Json

open Number

theorem digits_of_wholePart {cs whole rest : List Char}
    (taken : wholePart? cs = some (whole, rest)) :
    ∀ c ∈ whole, isDigit c := by
  unfold wholePart? at taken
  split at taken
  · cases taken
    simp [isDigit]
  · next c cs _ =>
    split at taken
    · next digit =>
      cases taken
      intro d found
      rcases List.mem_cons.1 found with rfl | later
      · exact digit
      · exact List.mem_takeWhile_imp later
    · cases taken
  · cases taken

/-- An integer that is read has no more digits than are written. -/
theorem hidden?_of_number {cs rest : List Char} {v : Value} (room : Nat)
    (reads : number cs = .ok (v, rest)) : v.hidden? room = none := by
  unfold number at reads
  dsimp only at reads
  split at reads
  · cases reads
  · next whole after taken =>
    split at reads
    · split at reads
      · cases reads
      · next short =>
        have bound : digitsValue whole < Scalar.unwritable :=
          digitsValue_lt_pow (digits_of_wholePart taken) (Nat.le_of_not_lt short)
        cases reads
        rw [Value.hidden?, Scalar.hidden?_eq_none, Scalar.isShowable]
        split
        · simpa using bound
        · simpa using bound
    · cases reads
      rfl

theorem hidden?_of_named {cs rest : List Char} {v : Value} (room : Nat)
    (named : named? cs = some (v, rest)) : v.hidden? room = none := by
  obtain ⟨entry, listed, same⟩ := List.exists_of_findSome?_eq_some named
  obtain ⟨after, -, split⟩ := Option.map_eq_some_iff.1 same
  cases split
  simp only [List.mem_cons, List.not_mem_nil, or_false] at listed
  rcases listed with rfl | rfl | rfl | rfl | rfl | rfl <;> rfl

/-- What a reader with some fuel reads with some room can be shown with as much, if what it has
read before can. -/
structure ReadsShowable (fuel : Nat) : Prop where
  value : ∀ room cs v rest, value fuel room cs = .ok (v, rest) → v.hidden? room = none
  elements : ∀ room cs done v rest, Value.hiddenItems? room done = none →
    elements fuel room cs done = .ok (v, rest) → v.hidden? (room + 1) = none
  members : ∀ room cs done v rest, Value.hiddenEntries? room done = none →
    members fuel room cs done = .ok (v, rest) → v.hidden? (room + 1) = none

namespace ReadsShowable

variable {fuel : Nat} {v : Value} {rest : List Char}

theorem value_succ (inner : ReadsShowable fuel) {room : Nat} {cs : List Char}
    (reads : Json.value (fuel + 1) room cs = .ok (v, rest)) : v.hidden? room = none := by
  rw [Json.value.eq_def] at reads
  dsimp only at reads
  split at reads
  · rcases ends : Json.string _ with stop | ⟨s, after⟩
    · rw [ends] at reads
      cases reads
    · rw [ends] at reads
      cases reads
      rfl
  · split at reads
    · cases reads
    · next left =>
      split at reads
      · cases reads
        exact Value.ite_tooDeep_eq_none.2 ⟨left, rfl⟩
      · have shown := inner.elements _ _ _ _ _ rfl reads
        rwa [Nat.sub_add_cancel (Nat.pos_of_ne_zero left)] at shown
  · split at reads
    · cases reads
    · next left =>
      split at reads
      · cases reads
        exact Value.ite_tooDeep_eq_none.2 ⟨left, rfl⟩
      · have shown := inner.members _ _ _ _ _ rfl reads
        rwa [Nat.sub_add_cancel (Nat.pos_of_ne_zero left)] at shown
  · split at reads
    · next named found =>
      cases reads
      exact hidden?_of_named room found
    · exact hidden?_of_number room reads

theorem elements_succ (inner : ReadsShowable fuel) {room : Nat} {cs : List Char}
    {done : List Value} (shown : Value.hiddenItems? room done = none)
    (reads : Json.elements (fuel + 1) room cs done = .ok (v, rest)) :
    v.hidden? (room + 1) = none := by
  rw [Json.elements] at reads
  split at reads
  · cases reads
  · next item after found =>
    have more : Value.hiddenItems? room (item :: done) = none :=
      Option.or_eq_none_iff.2 ⟨inner.value _ _ _ _ found, shown⟩
    split at reads
    · cases reads
      refine Value.ite_tooDeep_eq_none.2 ⟨Nat.succ_ne_zero room, ?_⟩
      rw [Nat.add_sub_cancel, Value.hiddenItems?_eq_none]
      intro other listed
      exact Value.hiddenItems?_eq_none.1 more other (List.mem_reverse.1 listed)
    · exact inner.elements _ _ _ _ _ more reads
    · cases reads

theorem members_succ (inner : ReadsShowable fuel) {room : Nat} {cs : List Char}
    {done : List (Scalar × Value)} (shown : Value.hiddenEntries? room done = none)
    (reads : Json.members (fuel + 1) room cs done = .ok (v, rest)) :
    v.hidden? (room + 1) = none := by
  rw [Json.members.eq_def] at reads
  dsimp only at reads
  split at reads
  · split at reads
    · cases reads
    · next name _ _ =>
      split at reads
      · split at reads
        · cases reads
        · next item after found =>
          have more : Value.hiddenEntries? room (Entries.insert done (.text name) item) = none :=
            Value.hiddenEntries?_insert shown rfl (inner.value _ _ _ _ found)
          split at reads
          · cases reads
            exact Value.ite_tooDeep_eq_none.2 ⟨Nat.succ_ne_zero room, more⟩
          · exact inner.members _ _ _ _ _ more reads
          · cases reads
      · cases reads
  · cases reads

end ReadsShowable

/-- The parts read each other with less fuel. -/
theorem readsShowable (fuel : Nat) : ReadsShowable fuel := by
  induction fuel with
  | zero =>
    refine ⟨fun room cs v rest reads => ?_, fun room cs done v rest _ reads => ?_,
      fun room cs done v rest _ reads => ?_⟩
    · cases reads
    · cases reads
    · cases reads
  | succ fuel ih =>
    exact ⟨fun _ _ _ _ => ih.value_succ, fun _ _ _ _ _ => ih.elements_succ,
      fun _ _ _ _ _ => ih.members_succ⟩

/-- Whatever a JSON text holds can be shown. -/
theorem isShowable_of_read {text : String} {v : Value} (reads : read text = .ok v) :
    v.isShowable = true := by
  rw [read] at reads
  rcases ends : document text.toList with stop | found
  · rw [ends] at reads
    cases reads
  · rw [ends] at reads
    cases reads
    unfold document at ends
    split at ends
    · cases ends
    · split at ends
      · cases ends
      · next whole after inside =>
        split at ends
        · cases ends
          exact Option.isNone_iff_eq_none.2 ((readsShowable _).value _ _ _ _ inside)
        · cases ends

end Json

end ClusterTopology
