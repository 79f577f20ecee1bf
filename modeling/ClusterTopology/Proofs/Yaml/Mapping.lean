import ClusterTopology.Yaml.Reader

/-!
# The mapping of a document

Of two entries with one key the last one counts, so a document that is a mapping has every key
once. The steps that make objects keep this of all mappings that are filled: `Object.Makes` is
closed under one step after another, and only filling a collection adds a mapping.
-/

namespace ClusterTopology.Yaml

/-- Contents that, if they are those of a mapping, have every key once. -/
def Contents.IsSound (found : Contents) : Prop :=
  ∀ entries, found = .map entries → Entries.Distinct entries

namespace Object

/-- No mapping that is filled has a key twice. -/
def Building.IsSound (b : Building) : Prop :=
  ∀ found, some found ∈ b.contents → found.IsSound

variable {α β : Type}

/-- A step that ends with something of a kind, and after which no mapping has a key twice if none
has before it. -/
def Makes (kind : α → Prop) (step : Build α) : Prop :=
  ∀ b a after, step.run b = .ok (a, after) → b.IsSound → kind a ∧ after.IsSound

/-- A step that ends with anything. -/
abbrev Keeps (step : Build α) : Prop :=
  Makes (fun _ => True) step

variable {kind : α → Prop} {other : β → Prop}

theorem makes_pure {a : α} (holds : kind a) : Makes kind (pure a) := by
  intro b _ after ends sound
  cases ends
  exact ⟨holds, sound⟩

theorem makes_throw (error : Error) : Makes kind (throw error) := by
  intro b a after ends
  cases ends

theorem Makes.bind {first : Build α} {next : α → Build β} (before : Makes kind first)
    (later : ∀ a, kind a → Makes other (next a)) : Makes other (first >>= next) := by
  intro b a after ends sound
  rw [StateT.run_bind] at ends
  rcases begins : first.run b with error | ⟨found, between⟩
  · rw [begins] at ends
    cases ends
  · rw [begins] at ends
    obtain ⟨holds, still⟩ := before b found between begins sound
    exact later found holds between a after ends still

theorem Keeps.bind {first : Build α} {next : α → Build β} (before : Keeps first)
    (later : ∀ a, Makes other (next a)) : Makes other (first >>= next) :=
  Makes.bind before fun a _ => later a

theorem keeps_get : Keeps get := by
  intro b _ after ends sound
  cases ends
  exact ⟨trivial, sound⟩

theorem keeps_modify {change : Building → Building}
    (keeps : ∀ b, b.IsSound → (change b).IsSound) : Keeps (modify change) := by
  intro b _ after ends sound
  cases ends
  exact ⟨trivial, keeps b sound⟩

theorem keeps_mapM {step : α → Build β} (keeps : ∀ a, Keeps (step a)) (items : List α) :
    Keeps (items.mapM step) := by
  induction items with
  | nil => exact makes_pure trivial
  | cons item items ih =>
    rw [List.mapM_cons]
    exact (keeps item).bind fun _ => ih.bind fun _ => makes_pure trivial

theorem keeps_forM {step : α → Build Unit} (keeps : ∀ a, Keeps (step a)) (items : List α) :
    Keeps (items.forM step) := by
  induction items with
  | nil => exact makes_pure trivial
  | cons item items ih => exact (keeps item).bind fun _ => ih

theorem keeps_refuse : Keeps (refuse : Build α) :=
  makes_throw _

theorem keeps_node (id : NodeId) : Keeps (node id) :=
  keeps_get.bind fun _ => makes_pure trivial

theorem keeps_setEntries (id : NodeId) (entries : List (NodeId × NodeId)) :
    Keeps (setEntries id entries) :=
  keeps_modify fun _ sound => sound

theorem keeps_asText (id : NodeId) : Keeps (asText id) :=
  keeps_modify fun _ sound => sound

/-- Merge keys are resolved with some fuel, and no mapping is filled by that. -/
structure Flattens (fuel : Nat) : Prop where
  flatten : ∀ id, Keeps (flatten fuel id)
  takeOver : ∀ id, Keeps (takeOver fuel id)
  named : ∀ id, Keeps (named fuel id)
  flatEntries : ∀ id, Keeps (flatEntries fuel id)

namespace Flattens

variable {fuel : Nat}

theorem flatten_succ (inner : Flattens fuel) (id : NodeId) :
    Keeps (Object.flatten (fuel + 1) id) := by
  rw [Object.flatten]
  refine (inner.takeOver id).bind fun merged => (keeps_node id).bind fun found => ?_
  exact (keeps_forM (fun (entry : NodeId × NodeId) => keeps_asText entry.1) _).bind
    fun _ => keeps_setEntries id _

theorem takeOver_succ (inner : Flattens fuel) (id : NodeId) :
    Keeps (Object.takeOver (fuel + 1) id) := by
  rw [Object.takeOver]
  refine keeps_get.bind fun b => (keeps_node id).bind fun found => ?_
  dsimp only
  split
  · exact makes_pure trivial
  · exact (keeps_setEntries id _).bind fun _ => (inner.named _).bind fun _ =>
      (inner.takeOver id).bind fun _ => makes_pure trivial

theorem named_succ (inner : Flattens fuel) (id : NodeId) : Keeps (Object.named (fuel + 1) id) := by
  rw [Object.named]
  refine (keeps_node id).bind fun found => ?_
  split
  · exact inner.flatEntries id
  · refine (keeps_mapM (fun item => (keeps_node item).bind fun node => ?_) _).bind fun _ =>
      makes_pure trivial
    split
    · exact inner.flatEntries item
    · exact keeps_refuse
  · exact keeps_refuse

theorem flatEntries_succ (inner : Flattens fuel) (id : NodeId) :
    Keeps (Object.flatEntries (fuel + 1) id) := by
  rw [Object.flatEntries]
  exact (inner.flatten id).bind fun _ => (keeps_node id).bind fun _ => makes_pure trivial

end Flattens

theorem flattens (fuel : Nat) : Flattens fuel := by
  -- Each of the four calls others of them with less fuel, so none can be shown without the rest.
  induction fuel with
  | zero =>
    refine ⟨fun _ => ?_, fun _ => ?_, fun _ => ?_, fun _ => ?_⟩
    · rw [flatten]
      exact makes_throw _
    · rw [takeOver]
      exact makes_throw _
    · rw [named]
      exact makes_throw _
    · rw [flatEntries]
      exact makes_throw _
  | succ fuel ih => exact ⟨ih.flatten_succ, ih.takeOver_succ, ih.named_succ, ih.flatEntries_succ⟩

theorem keeps_contentText (fuel : Nat) (id : NodeId) : Keeps (contentText fuel id) := by
  induction fuel generalizing id with
  | zero => exact makes_throw _
  | succ fuel ih =>
    rw [contentText]
    refine keeps_get.bind fun b => ?_
    dsimp only
    split
    · exact makes_pure trivial
    · exact keeps_refuse
    · split
      · exact ih _
      · exact keeps_refuse

theorem keeps_scalarKey (id : NodeId) : Keeps (scalarKey id) := by
  refine (keeps_node id).bind fun node => keeps_get.bind fun b =>
    (keeps_contentText _ id).bind fun text => ?_
  split
  · exact makes_throw _
  · rcases Content.value node.tag text with error | s
    · exact makes_throw error
    · exact makes_pure trivial

theorem keeps_newPart (id : NodeId) : Keeps (newPart id) := by
  refine (keeps_node id).bind fun node => ?_
  have waits : Keeps (do
      modify fun b => { b with waiting := id :: b.waiting }
      return Part.collection id) := by
    refine Keeps.bind (keeps_modify ?_) fun _ => makes_pure trivial
    exact fun _ sound => sound
  split
  · exact waits
  · exact waits
  · exact waits
  · exact waits
  · exact waits
  · exact (keeps_scalarKey id).bind fun _ => makes_pure trivial

theorem keeps_part (id : NodeId) : Keeps (part id) := by
  refine keeps_get.bind fun b => ?_
  split
  · exact makes_pure trivial
  · refine (keeps_newPart id).bind fun made => Keeps.bind (keeps_modify ?_) fun _ =>
      makes_pure trivial
    exact fun _ sound => sound

/-- Writes one after the other leave every key once, whatever they are. -/
theorem makes_entryParts (id : NodeId) : Makes Entries.Distinct (entryParts id) := by
  refine keeps_get.bind fun b => ?_
  refine Keeps.bind ((flattens _).flatten id) fun _ => (keeps_node id).bind fun node => ?_
  refine Keeps.bind (keeps_mapM (fun entry => ?_) _) fun writes =>
    makes_pure (Entries.distinct_ofList writes)
  refine (keeps_part entry.1).bind fun key => ?_
  split
  · exact keeps_refuse
  · exact (keeps_part entry.2).bind fun _ => makes_pure trivial

theorem keeps_pairParts (id : NodeId) : Keeps (pairParts id) := by
  refine (keeps_node id).bind fun node => ?_
  split
  · exact (keeps_part _).bind fun _ => (keeps_part _).bind fun _ => makes_pure trivial
  · exact keeps_refuse

theorem makes_contentsOf (id : NodeId) : Makes Contents.IsSound (contentsOf id) := by
  refine (keeps_node id).bind fun node => ?_
  split
  · refine (keeps_mapM keeps_part _).bind fun items => makes_pure ?_
    intro entries same
    cases same
  · refine (makes_entryParts id).bind fun found distinct => makes_pure ?_
    intro entries same
    cases same
    exact distinct
  · refine (makes_entryParts id).bind fun found _ => makes_pure ?_
    intro entries same
    cases same
  · refine (keeps_mapM keeps_pairParts _).bind fun items => makes_pure ?_
    intro entries same
    cases same
  · refine (keeps_mapM keeps_pairParts _).bind fun items => makes_pure ?_
    intro entries same
    cases same
  · exact makes_throw .malformed

theorem keeps_fill (id : NodeId) : Keeps (fill id) := by
  refine (makes_contentsOf id).bind fun found good => keeps_modify fun b sound later filled => ?_
  rcases Array.mem_or_eq_of_mem_setIfInBounds filled with before | same
  · exact sound later before
  · cases same
    exact good

theorem keeps_fillAll (fuel : Nat) : Keeps (fillAll fuel) := by
  induction fuel with
  | zero => exact makes_pure trivial
  | succ fuel ih =>
    rw [fillAll]
    refine keeps_get.bind fun b => ?_
    split
    · exact makes_pure trivial
    · refine Keeps.bind (keeps_modify ?_) fun _ => (keeps_forM keeps_fill _).bind fun _ => ih
      exact fun _ sound => sound

/-- The collections of a document hold no mapping with a key twice. -/
theorem isSound_of_ofDocument {document : Document} {root : Part}
    {contents : Array (Option Contents)} (made : ofDocument document = .ok (root, contents))
    {found : Contents} (filled : some found ∈ contents) : found.IsSound := by
  unfold ofDocument at made
  dsimp only at made
  split at made
  · next root b ends =>
    cases made
    have keeps : Keeps (do
        let root ← part document.root
        fillAll (document.nodes.size + 1)
        return root) :=
      (keeps_part _).bind fun _ => (keeps_fillAll _).bind fun _ => makes_pure trivial
    have initially : Building.IsSound
        ⟨document.nodes, .replicate document.nodes.size none, [],
          .replicate document.nodes.size none⟩ := by
      intro found listed
      cases (Array.mem_replicate.1 listed).2
    exact (keeps _ _ _ ends initially).2 found filled
  · cases made

end Object

/-- Keys that are not one are scalars that are not one. -/
theorem Key.scalar_beq {key later : Key} (different : (key == later) = false) :
    (key.scalar == later.scalar) = false := by
  have both : Key.isSame key later = false := different
  rw [Key.isSame, Bool.or_eq_false_iff] at both
  exact both.1

theorem keys_zip_sublist (scalars : List Scalar) (values : List Value) :
    (Entries.keys (scalars.zip values)).Sublist scalars := by
  induction scalars generalizing values with
  | nil => exact .slnil
  | cons s scalars ih =>
    cases values with
    | nil => exact List.nil_sublist _
    | cons value values => exact (ih values).cons_cons s

theorem scalars_pairwise {parts : Entries Key Part} (distinct : Entries.Distinct parts) :
    (parts.map fun entry => entry.1.scalar).Pairwise fun s later => (s == later) = false :=
  List.pairwise_map.2 ((List.pairwise_map.1 distinct).imp Key.scalar_beq)

theorem distinct_of_write {writePart : Part → Writing} {found : Contents} {written : Written}
    {entries : Entries Scalar Value} (sound : found.IsSound)
    (writes : ((found.write writePart).run written).1.1 = .map entries) :
    Entries.Distinct entries := by
  cases found with
  | list items => cases writes
  | set members => cases writes
  | pairs parts => cases writes
  | map parts =>
    cases writes
    exact (scalars_pairwise (sound parts rfl)).sublist (keys_zip_sublist _ _)

theorem mem_of_getD {contents : Array (Option Contents)} {id : NodeId} {found : Contents}
    (holds : contents.getD id none = some found) : some found ∈ contents := by
  rw [Array.getD] at holds
  split at holds
  · next inside =>
    rw [← holds]
    exact Array.getElem_mem inside
  · cases holds

/-- A document that is a mapping has every key once. -/
theorem distinct_of_value {document : Document} {entries : Entries Scalar Value}
    (stands : document.value = .ok (.map entries)) : Entries.Distinct entries := by
  unfold Document.value at stands
  rcases made : Object.ofDocument document with error | ⟨root, contents⟩
  · rw [made] at stands
    cases stands
  · rw [made] at stands
    have value := Except.ok.inj stands
    split at value
    · cases value
    · split at value
      · next found holds =>
        exact distinct_of_write (Object.isSound_of_ofDocument made (mem_of_getD holds)) value
      · cases value

theorem exists_of_bind_eq_ok {ε α β : Type} {first : Except ε α} {next : α → Except ε β} {b : β}
    (ends : first >>= next = .ok b) : ∃ a, first = .ok a ∧ next a = .ok b := by
  cases first with
  | error error => cases ends
  | ok a => exact ⟨a, rfl, ends⟩

/-- Data that are a mapping have every key once. -/
theorem distinct_of_read {data : List UInt8} {entries : Entries Scalar Value}
    (reads : read data = .ok (.map entries)) : Entries.Distinct entries := by
  unfold read at reads
  obtain ⟨source, -, scanned⟩ := exists_of_bind_eq_ok reads
  obtain ⟨document, -, stands⟩ := exists_of_bind_eq_ok scanned
  cases document with
  | none => cases stands
  | some document => exact distinct_of_value stands

end ClusterTopology.Yaml
