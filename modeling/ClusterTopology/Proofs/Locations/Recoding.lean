import ClusterTopology.Json.Writer
import ClusterTopology.Locations
import Mathlib

/-!
# Documents within a document

The parts of the endpoints document may be written as JSON texts of their own:
the clouds, the details of each cloud, and the locations of each cloud, every
one by itself and one inside the other. However a document is recoded in this
way, its locations are the same, and so is the fault of a document that has none.
-/

namespace ClusterTopology

/-- Whether a fault of metadata is one of a document's text or shape, as against one of the
way to it. -/
def MetadataError.IsMalformed : MetadataError → Prop
  | .unreachable _ _ => False
  | .status _ _ => False
  | _ => True

namespace Locations

/-- How two lists of entries belong together: key by key, with related values. -/
abbrev Entrywise (related : Scalar → Value → Value → Prop) :
    List (Scalar × Value) → List (Scalar × Value) → Prop :=
  List.Forall₂ fun old new => old.1 = new.1 ∧ related old.1 old.2 new.2

/-- A value with changes to the entries of a mapping; any other value stays. -/
inductive Within (related : Scalar → Value → Value → Prop) : Value → Value → Prop where
  | map {entries changed : List (Scalar × Value)} (each : Entrywise related entries changed) :
    Within related (.map entries) (.map changed)
  | other {value : Value} (unlike : ∀ entries, value ≠ .map entries) : Within related value value

/-- A part of a document that is no text, recoded: after the changes within it, it is kept, or
a JSON text that is read as just that takes its place. -/
inductive Recoded (within : Value → Value → Prop) (value : Value) : Value → Prop where
  | kept {changed : Value} (direct : ∀ s, value ≠ .text s) (inner : within value changed) :
    Recoded within value changed
  | written {changed : Value} {s : String} (direct : ∀ s, value ≠ .text s)
    (inner : within value changed) (read : Json.read s = .ok changed) :
    Recoded within value (.text s)

/-- Values that are related under one name, and are the same under all others. -/
def Under (name : String) (related : Value → Value → Prop) (key : Scalar) (old new : Value) :
    Prop :=
  if key = .text name then related old new else old = new

theorem under_of_related {name : String} {related : Value → Value → Prop} {old new : Value}
    (h : related old new) : Under name related (.text name) old new := by
  rw [Under, if_pos rfl]
  exact h

/-- The locations of a cloud, recoded. -/
abbrev RecodedItems : Value → Value → Prop :=
  Recoded Eq

/-- The details of a cloud, recoded, with its locations within them. -/
abbrev RecodedDetails : Value → Value → Prop :=
  Recoded (Within (Under "locations" RecodedItems))

/-- The clouds, recoded, with the details of each of them. -/
abbrev RecodedClouds : Value → Value → Prop :=
  Recoded (Within fun _ => RecodedDetails)

/-- The entries of a whole document, recoded. -/
abbrev RecodedDocument : List (Scalar × Value) → List (Scalar × Value) → Prop :=
  Entrywise (Under "cloudEndpoint" RecodedClouds)

/-- Whether reading a part ends with something or with a fault of the document. -/
def IsSettled {α : Type} (result : Except Failure α) : Prop :=
  (∃ a, result = .ok a) ∨
    ∃ error : MetadataError, error.IsMalformed ∧ result = .error (.metadata error)

section Settled

variable {α β : Type}

theorem isSettled_ok (a : α) : IsSettled (.ok a : Except Failure α) :=
  .inl ⟨a, rfl⟩

theorem isSettled_wrongShape (part : DocumentPart) :
    IsSettled (.error (.metadata (.wrongShape part)) : Except Failure α) :=
  .inr ⟨.wrongShape part, trivial, rfl⟩

theorem IsSettled.bind {result : Except Failure α} {next : α → Except Failure β}
    (settled : IsSettled result) (goes : ∀ a, result = .ok a → IsSettled (next a)) :
    IsSettled (result >>= next) := by
  obtain ⟨a, rfl⟩ | ⟨error, malformed, rfl⟩ := settled
  · exact goes a rfl
  · exact .inr ⟨error, malformed, rfl⟩

end Settled

theorem field?_of_under {name : String} {related : Value → Value → Prop}
    {entries changed : List (Scalar × Value)}
    (each : Entrywise (Under name related) entries changed) :
    Option.Rel related (Value.field? entries name) (Value.field? changed name) := by
  induction each with
  | nil => exact .none
  | @cons old new rest rest' now later ih =>
    obtain ⟨key, value⟩ := old
    obtain ⟨key', value'⟩ := new
    obtain ⟨rfl, under⟩ := now
    by_cases named : key = .text name
    · rw [Under, if_pos named] at under
      simp only [Value.field?, Entries.get?, Scalar.beq_text, named, decide_true, if_true]
      exact .some under
    · simp only [Value.field?, Entries.get?, Scalar.beq_text, named, decide_false,
        Bool.false_eq_true, if_false]
      exact ih

theorem unfold_of_direct {value : Value} (direct : ∀ s, value ≠ .text s) (part : DocumentPart) :
    unfold part value = .ok value := by
  rcases value with ⟨_ | _ | _ | _ | s | _ | _ | _⟩ | _ | _ | _ | _ | _
  all_goals first | rfl | exact absurd rfl (direct s)

/-- What a recoded part unfolds to is the part with the changes within it. -/
theorem Recoded.unfold {within : Value → Value → Prop} {value recoded : Value}
    (recodes : Recoded within value recoded) (part : DocumentPart)
    (stays : ∀ changed, within value changed → ∀ s, changed ≠ .text s) :
    ∃ changed, within value changed ∧ Locations.unfold part value = .ok value ∧
      Locations.unfold part recoded = .ok changed := by
  cases recodes with
  | kept direct inner =>
    exact ⟨_, inner, unfold_of_direct direct part, unfold_of_direct (stays _ inner) part⟩
  | written direct inner read =>
    exact ⟨_, inner, unfold_of_direct direct part, by simp [Locations.unfold, read]⟩

theorem Recoded.direct {within : Value → Value → Prop} {value recoded : Value}
    (recodes : Recoded within value recoded) : ∀ s, value ≠ .text s := by
  cases recodes with
  | kept direct _ => exact direct
  | written direct _ _ => exact direct

/-- Recoded locations are the same locations, or are refused alike. -/
theorem itemsOf_of_recoded {value recoded : Value} (recodes : RecodedItems value recoded)
    (part : DocumentPart) :
    itemsOf part recoded = itemsOf part value ∧ IsSettled (itemsOf part value) := by
  obtain ⟨_, rfl, unfolds, unfolds'⟩ :=
    recodes.unfold part fun _ same => same ▸ recodes.direct
  rw [itemsOf, itemsOf, unfolds, unfolds']
  refine ⟨rfl, ?_⟩
  cases value with
  | list items => exact isSettled_ok items
  | _ => exact isSettled_wrongShape part

/-- A recoded part that has to be a mapping has its entries, with the changes to them, or is
refused alike. -/
theorem entriesOf_of_recoded {related : Scalar → Value → Value → Prop} {value recoded : Value}
    (recodes : Recoded (Within related) value recoded) (part : DocumentPart) :
    (∃ entries changed, entriesOf part value = .ok entries ∧
        entriesOf part recoded = .ok changed ∧ Entrywise related entries changed) ∨
      entriesOf part value = .error (.metadata (.wrongShape part)) ∧
        entriesOf part recoded = .error (.metadata (.wrongShape part)) := by
  have stays (changed : Value) (inner : Within related value changed) :
      ∀ s, changed ≠ .text s := by
    cases inner with
    | map each => simp
    | other unlike => exact recodes.direct
  obtain ⟨changed, inner, unfolds, unfolds'⟩ := recodes.unfold part stays
  rw [entriesOf, entriesOf, unfolds, unfolds']
  cases inner with
  | map each => exact .inl ⟨_, _, rfl, rfl, each⟩
  | other unlike =>
    cases value with
    | map entries => exact absurd rfl (unlike entries)
    | _ => exact .inr ⟨rfl, rfl⟩

/-- A cloud with recoded details has the same locations, or is refused alike. -/
theorem ofCloud_of_recoded {details recoded : Value} (recodes : RecodedDetails details recoded)
    (name : String) :
    ofCloud name recoded = ofCloud name details ∧ IsSettled (ofCloud name details) := by
  obtain ⟨entries, changed, reads, reads', each⟩ | ⟨refused, refused'⟩ :=
    entriesOf_of_recoded recodes (.cloud name)
  · -- Both have locations, recoded or not, or neither has any.
    have items : itemsOf (.locations name)
          ((Value.field? changed "locations").getD (.list [])) =
        itemsOf (.locations name) ((Value.field? entries "locations").getD (.list [])) ∧
        IsSettled (itemsOf (.locations name)
          ((Value.field? entries "locations").getD (.list []))) := by
      have both := field?_of_under each
      generalize Value.field? entries "locations" = plain at both ⊢
      generalize Value.field? changed "locations" = other at both ⊢
      cases both with
      | none => exact ⟨rfl, isSettled_ok []⟩
      | some recodes => exact itemsOf_of_recoded recodes (.locations name)
    rw [ofCloud, ofCloud, reads, reads']
    show (itemsOf _ _ >>= _) = (itemsOf _ _ >>= _) ∧ IsSettled (itemsOf _ _ >>= _)
    rw [items.1]
    exact ⟨rfl, items.2.bind fun found _ => isSettled_ok _⟩
  · rw [ofCloud, ofCloud, refused, refused']
    exact ⟨rfl, isSettled_wrongShape _⟩

/-- Clouds with recoded details have the same locations, or the first one that is refused is
refused alike. -/
theorem ofClouds_of_recoded {clouds changed : List (Scalar × Value)}
    (each : Entrywise (fun _ => RecodedDetails) clouds changed) :
    ofClouds changed = ofClouds clouds ∧ IsSettled (ofClouds clouds) := by
  induction each with
  | nil => exact ⟨rfl, isSettled_ok []⟩
  | @cons old new rest rest' now later ih =>
    obtain ⟨name, details⟩ := old
    obtain ⟨name', recoded⟩ := new
    obtain ⟨rfl, recodes⟩ := now
    obtain ⟨same, settled⟩ := ofCloud_of_recoded recodes name.plain
    rw [ofClouds, ofClouds, same, ih.1]
    exact ⟨rfl, settled.bind fun first _ => ih.2.bind fun others _ => isSettled_ok _⟩

theorem cloudsOf_of_recoded {entries changed : List (Scalar × Value)}
    (each : RecodedDocument entries changed) :
    (∃ clouds recoded, cloudsOf entries = .ok clouds ∧ cloudsOf changed = .ok recoded ∧
        RecodedClouds clouds recoded) ∨
      cloudsOf entries = .error (.metadata .noClouds) ∧
        cloudsOf changed = .error (.metadata .noClouds) := by
  have both := field?_of_under each
  rw [cloudsOf, cloudsOf]
  generalize Value.field? entries "cloudEndpoint" = plain at both ⊢
  generalize Value.field? changed "cloudEndpoint" = other at both ⊢
  cases both with
  | none => exact .inr ⟨rfl, rfl⟩
  | some recodes => exact .inl ⟨_, _, rfl, rfl, recodes⟩

/-- A document in which parts are JSON texts of their own lists the same locations as the
document in which they stand directly, or is refused with the same fault of its shape. -/
theorem parse_recoded {document recoded : String} {entries changed : List (Scalar × Value)}
    (read : Json.read document = .ok (.map entries))
    (read' : Json.read recoded = .ok (.map changed)) (each : RecodedDocument entries changed) :
    parse recoded = parse document ∧
      ((∃ locations, parse document = .ok locations) ∨
        ∃ error : MetadataError, error.IsMalformed ∧
          parse document = .error (.metadata error)) := by
  have whole {s : String} {known : List (Scalar × Value)}
      (parsed : Json.read s = .ok (.map known)) :
      entriesOf .document (.text s) = .ok known := by
    simp [entriesOf, unfold, parsed, bind, Except.bind]
  show parse recoded = parse document ∧ IsSettled (parse document)
  rw [parse, parse, whole read, whole read']
  show (cloudsOf changed >>= _) = (cloudsOf entries >>= _) ∧ IsSettled (cloudsOf entries >>= _)
  obtain ⟨clouds, cloudsRecoded, has, has', recodes⟩ | ⟨missing, missing'⟩ :=
    cloudsOf_of_recoded each
  · rw [has, has']
    show (entriesOf .clouds cloudsRecoded >>= _) = (entriesOf .clouds clouds >>= _) ∧
      IsSettled (entriesOf .clouds clouds >>= _)
    obtain ⟨listed, listedRecoded, lists, lists', each⟩ | ⟨refused, refused'⟩ :=
      entriesOf_of_recoded recodes .clouds
    · rw [lists, lists']
      show (ofClouds listedRecoded >>= _) = (ofClouds listed >>= _) ∧
        IsSettled (ofClouds listed >>= _)
      obtain ⟨same, settled⟩ := ofClouds_of_recoded each
      rw [same]
      exact ⟨rfl, settled.bind fun found _ => isSettled_ok _⟩
    · rw [refused, refused']
      exact ⟨rfl, isSettled_wrongShape _⟩
  · rw [missing, missing']
    exact ⟨rfl, .inr ⟨.noClouds, trivial, rfl⟩⟩

set_option maxRecDepth 2048 in
/-- A list inside the text of a cloud inside the text of all clouds, beside a cloud that
stands directly. -/
theorem parse_recoded_thrice :
    let items := "[\"e\",true]"
    let details := "\x7b\"locations\":" ++ Json.writtenText items ++ "\x7d"
    let clouds := "\x7b\"a\":" ++ Json.writtenText details ++ ",\"b\":\x7b\x7d\x7d"
    let recoded := "\x7b\"cloudEndpoint\":" ++ Json.writtenText clouds ++ "\x7d"
    let document := "\x7b\"cloudEndpoint\":" ++
      "\x7b\"a\":\x7b\"locations\":[\"e\",true]\x7d,\"b\":\x7b\x7d\x7d\x7d"
    let entries : List (Scalar × Value) :=
      [(.text "cloudEndpoint",
        .map [(.text "a", .map [(.text "locations", .list [.text "e", .bool true])]),
          (.text "b", .map [])])]
    Json.read document = .ok (.map entries) ∧
    Json.read recoded = .ok (.map [(.text "cloudEndpoint", .text clouds)]) ∧
    RecodedDocument entries [(.text "cloudEndpoint", .text clouds)] ∧
    parse recoded = parse document ∧ parse document = .ok ["e", "True"] := by
  intro items details clouds recoded document entries
  have read : Json.read document = .ok (.map entries) := by cbv
  have read' : Json.read recoded = .ok (.map [(.text "cloudEndpoint", .text clouds)]) := by
    dsimp only [recoded, clouds, details, items]
    cbv
  have itemsRead : Json.read items = .ok (.list [.text "e", .bool true]) := by cbv
  have detailsRead : Json.read details = .ok (.map [(.text "locations", .text items)]) := by
    dsimp only [details, items]
    cbv
  have cloudsRead : Json.read clouds =
      .ok (.map [(.text "a", .text details), (.text "b", .map [])]) := by
    dsimp only [clouds, details, items]
    cbv
  have inDetails : Entrywise (Under "locations" RecodedItems)
      [(.text "locations", .list [.text "e", .bool true])] [(.text "locations", .text items)] :=
    .cons ⟨rfl, under_of_related (.written (by simp) rfl itemsRead)⟩ .nil
  have inClouds : Entrywise (fun _ => RecodedDetails)
      [(.text "a", .map [(.text "locations", .list [.text "e", .bool true])]),
        (.text "b", .map [])]
      [(.text "a", .text details), (.text "b", .map [])] :=
    .cons ⟨rfl, .written (by simp) (.map inDetails) detailsRead⟩
      (.cons ⟨rfl, .kept (by simp) (.map .nil)⟩ .nil)
  have each : RecodedDocument entries [(.text "cloudEndpoint", .text clouds)] :=
    .cons ⟨rfl, under_of_related (.written (by simp) (.map inClouds) cloudsRead)⟩ .nil
  have lists : parse document = .ok ["e", "True"] := by
    simp only [parse, entriesOf, unfold, read]
    rfl
  exact ⟨read, read', each, (parse_recoded read read' each).1, lists⟩

end Locations

end ClusterTopology
