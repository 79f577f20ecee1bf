import ClusterTopology.Json.Reader

/-!
# Texts in the place of values

Where a document holds a text, the text may be JSON for the value that is meant. `Json.Opens`
says what a value comes to once such a text is read; a text inside it stays a text. A text need
not open: it may be no JSON, or ask for more than the reader gives, which is what
`Json.Overtaxes` says.
-/

namespace ClusterTopology

theorem Value.text_or_other (v : Value) : (∃ s, v = .text s) ∨ ∀ s, v ≠ .text s := by
  by_cases isText : ∃ s, v = .text s
  · exact .inl isText
  · exact .inr fun s same => isText ⟨s, same⟩

namespace Json

/-- What a value comes to: a text to what it says as JSON, anything else to itself. -/
inductive Opens : Value → Value → Prop where
  | direct {v : Value} (other : ∀ s, v ≠ .text s) : Opens v v
  | text {s : String} {v : Value} (read : Json.read s = .ok v) : Opens (.text s) v

/-- Whether a value is a text that the reader gives up: it holds an integer with too many digits,
or lists and mappings too deep within each other. -/
inductive Overtaxes : Value → Error → Prop where
  | longInteger {s : String} {digits : Nat} (stops : Json.read s = .error (.longInteger digits)) :
    Overtaxes (.text s) (.longInteger digits)
  | tooDeep {s : String} {isList : Bool} (stops : Json.read s = .error (.tooDeep isList)) :
    Overtaxes (.text s) (.tooDeep isList)

theorem opens_of_other {v content : Value} (other : ∀ s, v ≠ .text s) :
    Opens v content ↔ v = content := by
  constructor
  · intro opens
    cases opens with
    | direct => rfl
    | text => exact absurd rfl (other _)
  · rintro rfl
    exact .direct other

@[simp]
theorem opens_text {s : String} {content : Value} :
    Opens (.text s) content ↔ Json.read s = .ok content := by
  constructor
  · intro opens
    cases opens with
    | direct other => exact absurd rfl (other s)
    | text read => exact read
  · exact .text

@[simp]
theorem opens_list {items : List Value} {content : Value} :
    Opens (.list items) content ↔ .list items = content :=
  opens_of_other (by simp)

theorem Opens.unique {v first second : Value} (opens : Opens v first) (again : Opens v second) :
    first = second := by
  cases opens with
  | direct other => exact (opens_of_other other).1 again
  | text read =>
    rw [opens_text, read] at again
    exact Except.ok.inj again

theorem not_overtaxes_of_other {v : Value} (other : ∀ s, v ≠ .text s) (error : Error) :
    ¬ Overtaxes v error := by
  intro overtaxes
  cases overtaxes with
  | _ => exact other _ rfl

theorem overtaxes_text {s : String} {error : Error} :
    Overtaxes (.text s) error ↔
      Json.read s = .error error ∧ ∀ fault place, error ≠ .malformed fault place := by
  constructor
  · intro overtaxes
    cases overtaxes with
    | longInteger stops => exact ⟨stops, by simp⟩
    | tooDeep stops => exact ⟨stops, by simp⟩
  · rintro ⟨stops, other⟩
    cases error with
    | malformed fault place => exact absurd rfl (other fault place)
    | longInteger digits => exact .longInteger stops
    | tooDeep isList => exact .tooDeep stops

theorem value_of_brackets (room fuel : Nat) (rest : List Char) (enough : 2 * room < fuel) :
    value fuel room (List.replicate (room + 1) '[' ++ rest) = .error (.tooDeep true) := by
  induction room generalizing fuel with
  | zero =>
    obtain ⟨fuel, rfl⟩ := Nat.exists_eq_add_of_lt enough
    rfl
  | succ room ih =>
    -- One bracket takes one step for the list and one for its first item.
    obtain ⟨fuel, rfl⟩ : ∃ more, fuel = more + 2 := ⟨fuel - 2, by omega⟩
    have inner := ih fuel (by omega)
    have next : skipSpace (List.replicate (room + 1) '[' ++ rest) =
        List.replicate (room + 1) '[' ++ rest := rfl
    rw [List.replicate_succ, List.cons_append, value, next]
    show elements (fuel + 1) room (List.replicate (room + 1) '[' ++ rest) [] = _
    rw [elements, inner]

/-- Brackets that are opened once more than is followed ask too much, whatever comes after
them. -/
theorem overtaxes_brackets (rest : List Char) :
    Overtaxes (.text (String.ofList (List.replicate (maxDepth + 1) '[' ++ rest)))
      (.tooDeep true) := by
  have enough : 2 * maxDepth < 2 * (List.replicate (maxDepth + 1) '[' ++ rest).length + 2 := by
    simp only [List.length_append, List.length_replicate]
    omega
  have next : skipSpace (List.replicate (maxDepth + 1) '[' ++ rest) =
      List.replicate (maxDepth + 1) '[' ++ rest := rfl
  have whole : document (List.replicate (maxDepth + 1) '[' ++ rest) = .error (.tooDeep true) := by
    rw [document, next, value_of_brackets maxDepth _ rest enough]
    intro other same
    cases same
  refine .tooDeep ?_
  rw [read, String.toList_ofList, whole]
  rfl

end Json

end ClusterTopology
