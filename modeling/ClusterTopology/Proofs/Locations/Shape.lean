import ClusterTopology.Proofs.Json.Opened
import ClusterTopology.Proofs.Locations.Recoding

/-!
# What an endpoints document lists

The shape of an endpoints document, said without the way it is read: a mapping with clouds, each
a mapping that may have a list of locations, where each of these parts may be a JSON text. A
document of this shape is read as all that its clouds list. Any other document is refused with a
fault of the document, unless one of its texts asks for more than the JSON reader gives; it is
such a text, and nothing else, that ends the reading with an error of another kind.
-/

namespace ClusterTopology.Locations

open Json (Opens Overtaxes)

/-- The items that the details of a cloud list. -/
inductive CloudLists (details : Value) : List Value → Prop where
  | listed {fields : List (Scalar × Value)} {part : Value} {items : List Value}
      (opens : Opens details (.map fields)) (found : Value.field? fields "locations" = some part)
      (lists : Opens part (.list items)) : CloudLists details items
  | unlisted {fields : List (Scalar × Value)} (opens : Opens details (.map fields))
      (absent : Value.field? fields "locations" = none) : CloudLists details []

/-- The items that each of some clouds lists. -/
abbrev CloudsList : List (Scalar × Value) → List (List Value) → Prop :=
  List.Forall₂ fun cloud items => CloudLists cloud.2 items

/-- The items that each cloud of a document lists. -/
inductive DocumentLists (document : String) (listed : List (List Value)) : Prop where
  | clouds {fields clouds : List (Scalar × Value)} {part : Value}
      (read : Json.read document = .ok (.map fields))
      (found : Value.field? fields "cloudEndpoint" = some part)
      (opens : Opens part (.map clouds)) (each : CloudsList clouds listed)

/-- A text of a cloud that asks too much of the reader: its details or its locations. -/
inductive CloudBreaks (details : Value) (error : Json.Error) : Prop where
  | details (overtaxes : Overtaxes details error)
  | locations {fields : List (Scalar × Value)} {part : Value}
      (opens : Opens details (.map fields)) (found : Value.field? fields "locations" = some part)
      (overtaxes : Overtaxes part error)

/-- The first cloud that lists nothing has a text that asks too much of the reader. -/
inductive CloudsBreak (error : Json.Error) : List (Scalar × Value) → Prop where
  | here {name : Scalar} {details : Value} {rest : List (Scalar × Value)}
      (breaks : CloudBreaks details error) : CloudsBreak error ((name, details) :: rest)
  | later {name : Scalar} {details : Value} {items : List Value} {rest : List (Scalar × Value)}
      (lists : CloudLists details items) (breaks : CloudsBreak error rest) :
    CloudsBreak error ((name, details) :: rest)

/-- A text of a document that asks too much of the reader, where all before it is as it should
be. -/
inductive Breaks (document : String) (error : Json.Error) : Prop where
  | document (overtaxes : Overtaxes (.text document) error)
  | clouds {fields : List (Scalar × Value)} {part : Value}
      (read : Json.read document = .ok (.map fields))
      (found : Value.field? fields "cloudEndpoint" = some part) (overtaxes : Overtaxes part error)
  | cloud {fields clouds : List (Scalar × Value)} {part : Value}
      (read : Json.read document = .ok (.map fields))
      (found : Value.field? fields "cloudEndpoint" = some part)
      (opens : Opens part (.map clouds)) (breaks : CloudsBreak error clouds)

/-- How a part is read: as just what it means, or with a fault of the document, or with the error
of a text that breaks it. -/
structure Reads {α : Type} (means : α → Prop) (breaks : Json.Error → Prop)
    (result : Except Failure α) : Prop where
  ok_iff : ∀ a, result = .ok a ↔ means a
  broken_iff : ∀ error, result = .error (.json error) ↔ breaks error
  ends : IsSettled result ∨ ∃ error, result = .error (.json error)

namespace Reads

variable {α β : Type} {means : α → Prop} {breaks : Json.Error → Prop} {result : Except Failure α}

theorem ok {a : α} (only : ∀ b, means b ↔ a = b) (whole : ∀ error, ¬ breaks error) :
    Reads means breaks (.ok a) where
  ok_iff b := by simp [only]
  broken_iff error := by simp [whole]
  ends := .inl (isSettled_ok a)

theorem malformed (error : MetadataError) (isMalformed : error.IsMalformed)
    (silent : ∀ a, ¬ means a) (whole : ∀ error, ¬ breaks error) :
    Reads means breaks (.error (.metadata error)) where
  ok_iff a := by simp [silent]
  broken_iff error := by simp [whole]
  ends := .inl (.inr ⟨error, isMalformed, rfl⟩)

theorem broken {error : Json.Error} (silent : ∀ a, ¬ means a) (only : ∀ e, breaks e ↔ error = e) :
    Reads means breaks (.error (.json error)) where
  ok_iff a := by simp [silent]
  broken_iff e := by simp [only]
  ends := .inr ⟨error, rfl⟩

theorem congr {means' : α → Prop} {breaks' : Json.Error → Prop} (reads : Reads means breaks result)
    (same : ∀ a, means a ↔ means' a) (sameBreaks : ∀ error, breaks error ↔ breaks' error) :
    Reads means' breaks' result where
  ok_iff a := (reads.ok_iff a).trans (same a)
  broken_iff error := (reads.broken_iff error).trans (sameBreaks error)
  ends := reads.ends

/-- One part after another breaks where the first one does, or the next one. -/
theorem bind {next : α → Except Failure β} {means' : α → β → Prop}
    {breaks' : α → Json.Error → Prop} (first : Reads means breaks result)
    (second : ∀ a, means a → Reads (means' a) (breaks' a) (next a)) :
    Reads (fun b => ∃ a, means a ∧ means' a b)
      (fun error => breaks error ∨ ∃ a, means a ∧ breaks' a error) (result >>= next) := by
  -- A first part that fails means nothing, so nothing but its own failure can come of both.
  rcases result with failure | a
  · have silent (a : α) : ¬ means a := fun means => by
      simpa using (first.ok_iff a).2 means
    obtain (⟨a, same⟩ | ⟨error, isMalformed, same⟩) | ⟨error, same⟩ := first.ends
    · cases same
    · cases same
      refine malformed error isMalformed (fun b said => silent _ said.choose_spec.1) ?_
      rintro error (breaks | ⟨a, means, -⟩)
      · simpa using (first.broken_iff error).2 breaks
      · exact silent a means
    · cases same
      refine broken (fun b said => silent _ said.choose_spec.1) fun e => ?_
      rw [← first.broken_iff e, or_iff_left fun broken => silent _ broken.choose_spec.1]
      simp
  · have means (b : α) : means b ↔ a = b := by rw [← first.ok_iff b, Except.ok.injEq]
    refine (second a ((means a).2 rfl)).congr (fun b => ?_) fun error => ?_
    · simp [means]
    · have whole : ¬ breaks error := fun breaks => by
        simpa using (first.broken_iff error).2 breaks
      simp [means, whole]

end Reads

theorem unfold_reads (part : DocumentPart) (v : Value) :
    Reads (Opens v) (Overtaxes v) (unfold part v) := by
  rcases Value.text_or_other v with ⟨s, rfl⟩ | other
  · rcases read : Json.read s with error | content
    · cases error with
      | malformed fault place =>
        rw [unfold, read]
        refine .malformed (.notJson part fault place) trivial (by simp [read]) ?_
        simp [Json.overtaxes_text, read]
      | longInteger digits =>
        rw [unfold, read]
        exact .broken (by simp [read]) (by simp +contextual [Json.overtaxes_text, read, eq_comm])
      | tooDeep isList =>
        rw [unfold, read]
        exact .broken (by simp [read]) (by simp +contextual [Json.overtaxes_text, read, eq_comm])
    · rw [unfold, read]
      exact .ok (by simp [read]) (by simp [Json.overtaxes_text, read])
  · rw [unfold_of_direct other]
    exact .ok (fun _ => Json.opens_of_other other) (Json.not_overtaxes_of_other other)

/-- A part that is taken in one shape only means what it opens to in that shape. -/
theorem shaped_reads {α : Type} {ofShape : α → Value} {next : Value → Except Failure α}
    (part : DocumentPart) (v : Value)
    (shape : ∀ content, Reads (fun a => content = ofShape a) (fun _ => False) (next content)) :
    Reads (fun a => Opens v (ofShape a)) (Overtaxes v) (unfold part v >>= next) :=
  ((unfold_reads part v).bind fun content _ => shape content).congr (by simp) (by simp)

theorem entriesOf_reads (part : DocumentPart) (v : Value) :
    Reads (fun entries => Opens v (.map entries)) (Overtaxes v) (entriesOf part v) := by
  refine shaped_reads part v fun content => ?_
  cases content with
  | map entries => exact .ok (by simp) (by simp)
  | _ => exact .malformed (.wrongShape part) trivial (by simp) (by simp)

theorem itemsOf_reads (part : DocumentPart) (v : Value) :
    Reads (fun items => Opens v (.list items)) (Overtaxes v) (itemsOf part v) := by
  refine shaped_reads part v fun content => ?_
  cases content with
  | list items => exact .ok (by simp) (by simp)
  | _ => exact .malformed (.wrongShape part) trivial (by simp) (by simp)

theorem cloudLists_iff {details : Value} {items : List Value} :
    CloudLists details items ↔ ∃ fields, Opens details (.map fields) ∧
      Opens ((Value.field? fields "locations").getD (.list [])) (.list items) := by
  constructor
  · rintro (⟨opens, found, lists⟩ | ⟨opens, absent⟩)
    · exact ⟨_, opens, by rwa [found]⟩
    · exact ⟨_, opens, by simp [absent]⟩
  · rintro ⟨fields, opens, lists⟩
    rcases found : Value.field? fields "locations" with _ | part
    · obtain rfl : items = [] := by simpa [found, eq_comm] using lists
      exact .unlisted opens found
    · rw [found] at lists
      exact .listed opens found lists

theorem cloudBreaks_iff {details : Value} {error : Json.Error} :
    CloudBreaks details error ↔ Overtaxes details error ∨ ∃ fields, Opens details (.map fields) ∧
      Overtaxes ((Value.field? fields "locations").getD (.list [])) error := by
  constructor
  · rintro (overtaxes | ⟨opens, found, overtaxes⟩)
    · exact .inl overtaxes
    · exact .inr ⟨_, opens, by rwa [found]⟩
  · rintro (overtaxes | ⟨fields, opens, overtaxes⟩)
    · exact .details overtaxes
    · rcases found : Value.field? fields "locations" with _ | part
      · rw [found] at overtaxes
        exact absurd overtaxes (Json.not_overtaxes_of_other (by simp) error)
      · rw [found] at overtaxes
        exact .locations opens found overtaxes

theorem ofCloud_reads (name : String) (details : Value) :
    Reads (fun names => ∃ items, CloudLists details items ∧ names = items.map Value.plain)
      (CloudBreaks details) (ofCloud name details) := by
  have pure (items : List Value) : Reads (fun names => names = items.map Value.plain)
      (fun _ => False) (.ok (items.map Value.plain)) := .ok (by simp [eq_comm]) (by simp)
  have inner (fields : List (Scalar × Value)) :=
    (itemsOf_reads (.locations name) ((Value.field? fields "locations").getD (.list []))).bind
      fun items _ => pure items
  refine ((entriesOf_reads (.cloud name) details).bind fun fields _ => inner fields).congr
    (fun names => ?_) fun error => ?_
  · simp only [cloudLists_iff]
    constructor
    · rintro ⟨fields, opens, items, lists, rfl⟩
      exact ⟨items, ⟨fields, opens, lists⟩, rfl⟩
    · rintro ⟨items, ⟨fields, opens, lists⟩, rfl⟩
      exact ⟨fields, opens, items, lists, rfl⟩
  · simp [cloudBreaks_iff]

/-- Clouds are read one after the other, up to the first one that lists nothing. -/
theorem ofClouds_reads (clouds : List (Scalar × Value)) :
    Reads (fun names => ∃ listed, CloudsList clouds listed ∧
        names = listed.flatten.map Value.plain)
      (fun error => CloudsBreak error clouds) (ofClouds clouds) := by
  induction clouds with
  | nil =>
    refine .ok (fun names => ?_) fun error breaks => nomatch breaks
    simp [CloudsList, eq_comm]
  | cons cloud rest ih =>
    obtain ⟨name, details⟩ := cloud
    have pure (first others : List String) : Reads (fun names => names = first ++ others)
        (fun _ => False) (.ok (first ++ others)) := .ok (by simp [eq_comm]) (by simp)
    have both := (ofCloud_reads name.plain details).bind fun first _ =>
      ih.bind fun others _ => pure first others
    refine both.congr (fun names => ?_) fun error => ?_
    · constructor
      · rintro ⟨_, ⟨items, lists, rfl⟩, _, ⟨listed, each, rfl⟩, rfl⟩
        exact ⟨items :: listed, .cons lists each, by simp⟩
      · rintro ⟨_, lists | ⟨lists, each⟩, rfl⟩
        exact ⟨_, ⟨_, lists, rfl⟩, _, ⟨_, each, rfl⟩, by simp⟩
    · constructor
      · rintro (breaks | ⟨_, ⟨items, lists, rfl⟩, breaks | ⟨_, _, none⟩⟩)
        · exact .here breaks
        · exact .later lists breaks
        · exact none.elim
      · rintro (breaks | ⟨lists, breaks⟩)
        · exact .inl breaks
        · exact .inr ⟨_, ⟨_, lists, rfl⟩, .inl breaks⟩

theorem cloudsOf_reads (fields : List (Scalar × Value)) :
    Reads (fun part => Value.field? fields "cloudEndpoint" = some part) (fun _ => False)
      (cloudsOf fields) := by
  rw [cloudsOf]
  rcases Value.field? fields "cloudEndpoint" with _ | part
  · exact .malformed .noClouds trivial (by simp) (by simp)
  · exact .ok (by simp) (by simp)

/-- A document means all that its clouds list, each name once. -/
theorem parse_reads (document : String) :
    Reads (fun locations => ∃ listed, DocumentLists document listed ∧
        locations = (listed.flatten.map Value.plain).eraseDups)
      (Breaks document) (parse document) := by
  have pure (names : List String) : Reads (fun locations => locations = names.eraseDups)
      (fun _ => False) (.ok names.eraseDups) := .ok (by simp [eq_comm]) (by simp)
  have inner (clouds : List (Scalar × Value)) :=
    (ofClouds_reads clouds).bind fun names _ => pure names
  have parts (fields : List (Scalar × Value)) :=
    (cloudsOf_reads fields).bind fun part _ =>
      (entriesOf_reads .clouds part).bind fun clouds _ => inner clouds
  refine ((entriesOf_reads .document (.text document)).bind fun fields _ => parts fields).congr
    (fun locations => ?_) fun error => ?_
  · constructor
    · rintro ⟨fields, opens, part, found, clouds, inside, _, ⟨listed, each, rfl⟩, rfl⟩
      exact ⟨listed, .clouds (Json.opens_text.1 opens) found inside each, rfl⟩
    · rintro ⟨listed, ⟨read, found, opens, each⟩, rfl⟩
      exact ⟨_, .text read, _, found, _, opens, _, ⟨listed, each, rfl⟩, rfl⟩
  · constructor
    · rintro (overtaxes | ⟨fields, opens, none | ⟨part, found, overtaxes | ⟨clouds, inside, breaks |
        ⟨_, _, none⟩⟩⟩⟩)
      · exact .document overtaxes
      · exact none.elim
      · exact .clouds (Json.opens_text.1 opens) found overtaxes
      · exact .cloud (Json.opens_text.1 opens) found inside breaks
      · exact none.elim
    · rintro (overtaxes | ⟨read, found, overtaxes⟩ | ⟨read, found, opens, breaks⟩)
      · exact .inl overtaxes
      · exact .inr ⟨_, .text read, .inr ⟨_, found, .inl overtaxes⟩⟩
      · exact .inr ⟨_, .text read, .inr ⟨_, found, .inr ⟨_, opens, .inl breaks⟩⟩⟩

/-- Reading a document ends with its locations or with a fault of the document exactly if no text
of it asks too much of the JSON reader. It ends in any other way with the error of such a text. -/
theorem parse_isSettled_iff (document : String) :
    (IsSettled (parse document) ↔ ∀ error, ¬ Breaks document error) ∧
      ∀ error, parse document = .error (.json error) ↔ Breaks document error := by
  have reads := parse_reads document
  refine ⟨?_, reads.broken_iff⟩
  constructor
  · intro settled error breaks
    rw [(reads.broken_iff error).2 breaks] at settled
    obtain ⟨a, same⟩ | ⟨fault, -, same⟩ := settled
    · cases same
    · cases same
  · intro whole
    obtain settled | ⟨error, fails⟩ := reads.ends
    · exact settled
    · exact absurd ((reads.broken_iff error).1 fails) (whole error)

/-- A document of nothing but opening brackets is not refused as one that is no JSON. -/
theorem parse_brackets :
    let document := String.ofList (List.replicate (Json.maxDepth + 1) '[' ++ [])
    Breaks document (.tooDeep true) ∧ parse document = .error (.json (.tooDeep true)) ∧
      ¬ IsSettled (parse document) := by
  intro document
  have breaks : Breaks document (.tooDeep true) := .document (Json.overtaxes_brackets [])
  obtain ⟨settled, fails⟩ := parse_isSettled_iff document
  exact ⟨breaks, (fails _).2 breaks, fun settles => settled.1 settles _ breaks⟩

end ClusterTopology.Locations
