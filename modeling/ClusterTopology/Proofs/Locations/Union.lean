import ClusterTopology.Proofs.Locations.Shape
import Mathlib.Data.List.Perm.Basic

/-!
# All or nothing

The locations of a document are the union of what its clouds list, and there are none unless
every cloud lists something or leaves its locations out. So it matters neither in which order the
clouds stand, nor in which order or how often a location is listed, nor what else the mappings
hold, nor which parts are JSON texts.
-/

namespace ClusterTopology.Locations

open Json (Opens)

theorem nodup_eraseDups {α : Type} [BEq α] [LawfulBEq α] (as : List α) : as.eraseDups.Nodup := by
  cases as with
  | nil => exact .nil
  | cons a as =>
    rw [List.eraseDups_cons, List.nodup_cons]
    exact ⟨by simp, nodup_eraseDups _⟩
termination_by as.length
decreasing_by exact Nat.lt_succ_of_le (List.length_filter_le _ _)

/-- The names of all items, each once. -/
structure IsUnion (listed : List (List Value)) (locations : Locations) : Prop where
  distinct : locations.Nodup
  mem_iff : ∀ name, name ∈ locations ↔ ∃ items ∈ listed, ∃ item ∈ items, item.plain = name

theorem exists_item_iff {listed : List (List Value)} {name : String} :
    (∃ items ∈ listed, ∃ item ∈ items, item.plain = name) ↔
      ∃ item ∈ listed.flatten, item.plain = name := by
  simp only [List.mem_flatten]
  constructor
  · rintro ⟨items, among, item, found, named⟩
    exact ⟨item, ⟨items, among, found⟩, named⟩
  · rintro ⟨item, ⟨items, among, found⟩, named⟩
    exact ⟨items, among, item, found, named⟩

theorem isUnion_eraseDups (listed : List (List Value)) :
    IsUnion listed (listed.flatten.map Value.plain).eraseDups where
  distinct := nodup_eraseDups _
  mem_iff name := by rw [exists_item_iff, List.mem_eraseDups, List.mem_map]

theorem IsUnion.perm {listed others : List (List Value)} {locations found : Locations}
    (union : IsUnion listed locations) (other : IsUnion others found)
    (same : ∀ item, item ∈ listed.flatten ↔ item ∈ others.flatten) : locations.Perm found := by
  rw [List.perm_ext_iff_of_nodup union.distinct other.distinct]
  intro name
  rw [union.mem_iff, other.mem_iff, exists_item_iff, exists_item_iff]
  simp only [same]

/-- A part as it is, or another one that comes to something alike. -/
inductive Variant (alike : Value → Value → Prop) (v : Value) : Value → Prop where
  | kept : Variant alike v v
  | opened {other content changed : Value} (opens : Opens v content)
      (reopens : Opens other changed) (inside : alike content changed) : Variant alike v other

/-- Lists with the same items, in any order and each any number of times. -/
inductive SameItems : Value → Value → Prop where
  | list {items others : List Value} (same : ∀ item, item ∈ items ↔ item ∈ others) :
    SameItems (.list items) (.list others)

/-- Mappings with a variant of one field, or both without it, whatever their other fields are. -/
inductive SameField (name : String) (alike : Value → Value → Prop) : Value → Value → Prop where
  | map {fields others : List (Scalar × Value)}
      (both : Option.Rel (Variant alike) (Value.field? fields name) (Value.field? others name)) :
    SameField name alike (.map fields) (.map others)

/-- Details of a cloud with the same locations. -/
abbrev SameDetails : Value → Value → Prop :=
  Variant (SameField "locations" SameItems)

/-- Clouds in another order, with the same locations under each name. -/
inductive SameClouds : Value → Value → Prop where
  | map {clouds reordered others : List (Scalar × Value)} (perm : clouds.Perm reordered)
      (each : List.Forall₂ (fun cloud other => cloud.1 = other.1 ∧ SameDetails cloud.2 other.2)
        reordered others) :
    SameClouds (.map clouds) (.map others)

/-- A document with its clouds in another order, with the locations of each cloud in another
order and repeated in another way, and with other fields beside them. -/
def Rearranged (document other : String) : Prop :=
  Variant (SameField "cloudEndpoint" SameClouds) (.text document) (.text other)

theorem Variant.symm {alike : Value → Value → Prop}
    (flip : ∀ v other, alike v other → alike other v) {v other : Value}
    (variant : Variant alike v other) : Variant alike other v := by
  cases variant with
  | kept => exact .kept
  | opened opens reopens inside => exact .opened reopens opens (flip _ _ inside)

theorem SameItems.symm (v other : Value) (same : SameItems v other) : SameItems other v := by
  cases same with
  | list same => exact .list fun item => (same item).symm

theorem SameField.symm {name : String} {alike : Value → Value → Prop}
    (flip : ∀ v other, alike v other → alike other v) (v other : Value)
    (same : SameField name alike v other) : SameField name alike other v := by
  cases same with
  | @map fields others both =>
    refine .map ?_
    generalize Value.field? fields name = field at both ⊢
    generalize Value.field? others name = field' at both ⊢
    cases both with
    | none => exact .none
    | some variant => exact .some (variant.symm flip)

theorem SameClouds.symm (v other : Value) (same : SameClouds v other) : SameClouds other v := by
  cases same with
  | map perm each =>
    -- The order may be changed after the clouds, instead of before.
    obtain ⟨middle, reordered, back⟩ := List.perm_comp_forall₂ perm each
    refine .map back.symm (reordered.flip.imp fun cloud other both => ?_)
    exact ⟨both.1.symm, both.2.symm (SameField.symm SameItems.symm)⟩

theorem Rearranged.symm {document other : String} (rearranged : Rearranged document other) :
    Rearranged other document :=
  Variant.symm (SameField.symm SameClouds.symm) rearranged

/-- What a variant comes to is alike. -/
theorem Variant.opens {alike : Value → Value → Prop} {v other content : Value}
    (variant : Variant alike v other) (opens : Opens v content) (self : alike content content) :
    ∃ changed, Opens other changed ∧ alike content changed := by
  cases variant with
  | kept => exact ⟨content, opens, self⟩
  | opened opened reopens inside =>
    obtain rfl := opened.unique opens
    exact ⟨_, reopens, inside⟩

/-- The field that counts is found in a variant of a mapping as well, or in neither. -/
theorem Variant.fields {name : String} {alike : Value → Value → Prop} {v other : Value}
    {fields : List (Scalar × Value)} (variant : Variant (SameField name alike) v other)
    (opens : Opens v (.map fields)) :
    ∃ others, Opens other (.map others) ∧
      Option.Rel (Variant alike) (Value.field? fields name) (Value.field? others name) := by
  have self : Option.Rel (Variant alike) (Value.field? fields name) (Value.field? fields name) := by
    cases Value.field? fields name with
    | none => exact .none
    | some part => exact .some .kept
  obtain ⟨_, reopens, ⟨both⟩⟩ := variant.opens opens (.map self)
  exact ⟨_, reopens, both⟩

theorem exists_of_rel_some {related : Value → Value → Prop} {v : Value} {field : Option Value}
    (both : Option.Rel related (some v) field) : ∃ other, field = some other ∧ related v other := by
  cases both with
  | some held => exact ⟨_, rfl, held⟩

theorem cloudLists_of_sameDetails {details other : Value} {items : List Value}
    (lists : CloudLists details items) (same : SameDetails details other) :
    ∃ others, CloudLists other others ∧ ∀ item, item ∈ items ↔ item ∈ others := by
  cases lists with
  | listed opens found lists =>
    obtain ⟨fields, reopens, both⟩ := same.fields opens
    rw [found] at both
    obtain ⟨part, found', variant⟩ := exists_of_rel_some both
    obtain ⟨_, relists, ⟨same⟩⟩ := variant.opens lists (.list fun _ => Iff.rfl)
    exact ⟨_, .listed reopens found' relists, same⟩
  | unlisted opens absent =>
    obtain ⟨fields, reopens, both⟩ := same.fields opens
    rw [absent] at both
    generalize absent' : Value.field? fields "locations" = field at both
    cases both with
    | none => exact ⟨_, .unlisted reopens absent', fun _ => Iff.rfl⟩

theorem cloudsList_of_sameDetails {clouds others : List (Scalar × Value)}
    {listed : List (List Value)} (lists : CloudsList clouds listed)
    (each : List.Forall₂ (fun cloud other => cloud.1 = other.1 ∧ SameDetails cloud.2 other.2)
      clouds others) :
    ∃ relisted, CloudsList others relisted ∧
      ∀ item, item ∈ listed.flatten ↔ item ∈ relisted.flatten := by
  induction each generalizing listed with
  | nil =>
    cases lists
    exact ⟨[], .nil, fun _ => Iff.rfl⟩
  | cons now later ih =>
    cases lists with
    | cons first rest =>
      obtain ⟨items, relists, same⟩ := cloudLists_of_sameDetails first now.2
      obtain ⟨relisted, each, sameRest⟩ := ih rest
      refine ⟨items :: relisted, .cons relists each, fun item => ?_⟩
      simp only [List.flatten_cons, List.mem_append, same, sameRest]

theorem cloudsList_of_sameClouds {clouds : List (Scalar × Value)} {other : Value}
    {listed : List (List Value)} (lists : CloudsList clouds listed)
    (same : SameClouds (.map clouds) other) :
    ∃ others relisted, other = .map others ∧ CloudsList others relisted ∧
      ∀ item, item ∈ listed.flatten ↔ item ∈ relisted.flatten := by
  cases same with
  | map perm each =>
    obtain ⟨reordered, inOrder, back⟩ := List.perm_comp_forall₂ perm.symm lists
    obtain ⟨relisted, relists, same⟩ := cloudsList_of_sameDetails inOrder each
    refine ⟨_, relisted, rfl, relists, fun item => ?_⟩
    rw [← same, back.flatten.mem_iff]

theorem documentLists_of_rearranged {document other : String} {listed : List (List Value)}
    (lists : DocumentLists document listed) (rearranged : Rearranged document other) :
    ∃ relisted, DocumentLists other relisted ∧
      ∀ item, item ∈ listed.flatten ↔ item ∈ relisted.flatten := by
  obtain @⟨_, clouds, _, read, found, opens, each⟩ := lists
  have self : SameClouds (.map clouds) (.map clouds) :=
    .map (.refl clouds) (List.forall₂_same.2 fun _ _ => ⟨rfl, .kept⟩)
  obtain ⟨fields, reread, both⟩ := Variant.fields rearranged (.text read)
  rw [found] at both
  obtain ⟨part, found', variant⟩ := exists_of_rel_some both
  obtain ⟨_, reopens, same⟩ := variant.opens opens self
  obtain ⟨others, relisted, rfl, relists, sameItems⟩ := cloudsList_of_sameClouds each same
  exact ⟨relisted, .clouds (Json.opens_text.1 reread) found' reopens relists, sameItems⟩

theorem parse_of_rearranged {document other : String} {locations : Locations}
    (rearranged : Rearranged document other) (parsed : parse document = .ok locations) :
    ∃ found, parse other = .ok found ∧ locations.Perm found := by
  obtain ⟨listed, lists, rfl⟩ := ((parse_reads document).ok_iff locations).1 parsed
  obtain ⟨relisted, relists, same⟩ := documentLists_of_rearranged lists rearranged
  exact ⟨_, ((parse_reads other).ok_iff _).2 ⟨relisted, relists, rfl⟩,
    (isUnion_eraseDups listed).perm (isUnion_eraseDups relisted) same⟩

/-- A document whose clouds all list something, or leave their locations out, is read as the
union of what they list. Any other document has no locations: it is refused with a fault of the
document, or a text of it asks too much of the JSON reader. A document that is rearranged has the
same locations, or has none as well. -/
theorem parse_union (document : String) :
    (∀ listed, DocumentLists document listed →
      ∃ locations, parse document = .ok locations ∧ IsUnion listed locations) ∧
    ((∀ listed, ¬ DocumentLists document listed) →
      (∃ error : MetadataError, error.IsMalformed ∧ parse document = .error (.metadata error)) ∨
        ∃ error, Breaks document error ∧ parse document = .error (.json error)) ∧
    ∀ other, Rearranged document other →
      ((∃ locations, parse document = .ok locations) ↔ ∃ locations, parse other = .ok locations) ∧
      ∀ locations found, parse document = .ok locations → parse other = .ok found →
        locations.Perm found := by
  have reads := parse_reads document
  refine ⟨fun listed lists => ?_, fun silent => ?_, fun other rearranged => ⟨?_, ?_⟩⟩
  · exact ⟨_, (reads.ok_iff _).2 ⟨listed, lists, rfl⟩, isUnion_eraseDups listed⟩
  · obtain (⟨locations, parsed⟩ | refused) | ⟨error, fails⟩ := reads.ends
    · obtain ⟨listed, lists, -⟩ := (reads.ok_iff locations).1 parsed
      exact absurd lists (silent listed)
    · exact .inl refused
    · exact .inr ⟨error, (reads.broken_iff error).1 fails, fails⟩
  · constructor
    · rintro ⟨locations, parsed⟩
      obtain ⟨found, parsed', -⟩ := parse_of_rearranged rearranged parsed
      exact ⟨found, parsed'⟩
    · rintro ⟨found, parsed⟩
      obtain ⟨locations, parsed', -⟩ := parse_of_rearranged rearranged.symm parsed
      exact ⟨locations, parsed'⟩
  · intro locations found parsed parsed'
    obtain ⟨other, again, same⟩ := parse_of_rearranged rearranged parsed
    rw [parsed'] at again
    rwa [Except.ok.inj again]

set_option maxRecDepth 2048 in
/-- Two clouds, then the other way round, with a location repeated inside a text and fields that
do not count. -/
theorem parse_union_of_two :
    let document := "\x7b\"cloudEndpoint\":\x7b\"a\":\x7b\"locations\":[\"e\",true]\x7d," ++
      "\"b\":\x7b\x7d\x7d\x7d"
    let other := "\x7b\"k\":[],\"cloudEndpoint\":\x7b\"b\":\x7b\"k\":null\x7d," ++
      "\"a\":\x7b\"locations\":\"[true,true,\\\"e\\\"]\"\x7d\x7d\x7d"
    DocumentLists document [[.text "e", .bool true], []] ∧ Rearranged document other ∧
      ∃ locations found, parse document = .ok locations ∧ parse other = .ok found ∧
        "True" ∈ locations ∧ locations.Perm found := by
  intro document other
  have read : Json.read document = .ok (.map [(.text "cloudEndpoint",
      .map [(.text "a", .map [(.text "locations", .list [.text "e", .bool true])]),
        (.text "b", .map [])])]) := by cbv
  have reread : Json.read other = .ok (.map [(.text "k", .list []), (.text "cloudEndpoint",
      .map [(.text "b", .map [(.text "k", .null)]),
        (.text "a", .map [(.text "locations", .text "[true,true,\"e\"]")])])]) := by cbv
  have relist : Json.read "[true,true,\"e\"]" =
      .ok (.list [.bool true, .bool true, .text "e"]) := by cbv
  clear_value document other
  have lists : DocumentLists document [[.text "e", .bool true], []] := by
    refine .clouds read rfl (.direct (by simp)) (.cons ?_ (.cons ?_ .nil))
    · exact .listed (.direct (by simp)) rfl (.direct (by simp))
    · exact .unlisted (.direct (by simp)) rfl
  have same (item : Value) : item ∈ [Value.text "e", .bool true] ↔
      item ∈ [.bool true, .bool true, Value.text "e"] := by
    simp only [List.mem_cons, List.not_mem_nil, or_false, or_self_left]
    exact or_comm
  have items : SameDetails (.map [(.text "locations", .list [.text "e", .bool true])])
      (.map [(.text "locations", .text "[true,true,\"e\"]")]) :=
    .opened (.direct (by simp)) (.direct (by simp)) (.map (.some
      (.opened (.direct (by simp)) (.text relist) (.list same))))
  have none : SameDetails (.map []) (.map [(.text "k", .null)]) :=
    .opened (.direct (by simp)) (.direct (by simp)) (.map .none)
  have rearranged : Rearranged document other :=
    .opened (.text read) (.text reread) (.map (.some (.opened (.direct (by simp))
      (.direct (by simp)) (.map (.swap ..) (.cons ⟨rfl, none⟩ (.cons ⟨rfl, items⟩ .nil))))))
  obtain ⟨succeeds, -, alike⟩ := parse_union document
  obtain ⟨locations, parsed, union⟩ := succeeds _ lists
  obtain ⟨both, perm⟩ := alike other rearranged
  obtain ⟨found, parsed'⟩ := both.1 ⟨locations, parsed⟩
  have named : "True" ∈ locations :=
    (union.mem_iff _).2 ⟨_, .head _, .bool true, .tail _ (.head _), rfl⟩
  exact ⟨lists, rearranged, locations, found, parsed, parsed', named, perm _ _ parsed parsed'⟩

end ClusterTopology.Locations
