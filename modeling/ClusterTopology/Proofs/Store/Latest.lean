import ClusterTopology.Proofs.Json.Opened
import ClusterTopology.Proofs.Store.Breaks
import Mathlib.Data.List.Induction

/-!
# The last readable entry of a node

Several entries may spell one node, and any of them may be unreadable. `Store.Tells` and
`Store.Fails` are what an entry says and why it says nothing, told by its text and its record
alone. Entries decode to the mapping that `Store.KeepsLatest` describes: a node stands where it
is first told of, with what is last told of it. An entry that says nothing leaves a report and
nothing else, unless its record is nested too deeply; no entry after that one is looked at.
-/

namespace ClusterTopology

namespace Store

/-- What an entry says: its text is the address of the node, and its record, or what that is as
JSON, is a mapping that gives the placement. -/
structure Tells (entry : String × Value) (node : NodeAddress) (p : Placement) : Prop where
  address : NodeAddress.parse entry.1 = .ok node
  record : ∃ fields, Json.Opens entry.2 (.map fields) ∧ Placement.ofRecord (.map fields) = .ok p

/-- Why an entry says nothing. The address counts only if the record is a mapping. -/
inductive Fails : String × Value → Failure → Prop where
  | json {field s : String} {error : Json.Error} (unread : Json.read s = .error error) :
    Fails (field, .text s) (.json error)
  | record {field : String} {record content : Value} (opens : Json.Opens record content)
      (other : ∀ fields, content ≠ .map fields) :
    Fails (field, record) (.notRecord content.kindName)
  | address {field : String} {record : Value} {fields : List (Scalar × Value)}
      {error : AddressError} (opens : Json.Opens record (.map fields))
      (refused : NodeAddress.parse field = .error error) :
    Fails (field, record) (.address error)

/-- Whether the text of an entry is an address and its record a mapping, itself or as JSON. -/
structure IsReadable (entry : String × Value) : Prop where
  address : ∃ node, NodeAddress.parse entry.1 = .ok node
  record : ∃ fields, Json.Opens entry.2 (.map fields)

/-- Whether the record of an entry is a text that is nested too deeply. -/
def NestsTooDeep (entry : String × Value) : Prop :=
  ∃ s, entry.2 = .text s ∧ Json.IsTooDeep s

/-- Whether a placement is what the last entry that tells of a node says. -/
def IsLatest (entries : List (String × Value)) (node : NodeAddress) (p : Placement) : Prop :=
  ∃ before entry after, entries = before ++ entry :: after ∧ Tells entry node p ∧
    ∀ later ∈ after, ∀ q, ¬ Tells later node q

section Entry

variable {entry : String × Value} {record content : Value} {fields : List (Scalar × Value)}
  {node : NodeAddress} {p : Placement} {failure : Failure}

/-- A record opens, or it is a text that is no JSON. -/
theorem unfoldRecord_cases (record : Value) :
    (∃ content, Json.Opens record content ∧ unfoldRecord record = .ok content) ∨
      ∃ s error, record = .text s ∧ Json.read s = .error error ∧
        unfoldRecord record = .error (.json error) := by
  obtain ⟨s, rfl⟩ | other := record.text_or_other
  · rcases parsed : Json.read s with error | content
    · exact .inr ⟨s, error, rfl, parsed, by simp [unfoldRecord, parsed]⟩
    · exact .inl ⟨content, .text parsed, by simp [unfoldRecord, parsed]⟩
  · exact .inl ⟨record, .direct other, unfoldRecord_of_other other⟩

theorem exists_ofRecord (fields : List (Scalar × Value)) :
    ∃ p, Placement.ofRecord (.map fields) = .ok p :=
  ⟨_, rfl⟩

theorem ofRecord_of_other (other : ∀ fields, content ≠ .map fields) :
    Placement.ofRecord content = .error content.kindName := by
  cases content with
  | map fields => exact absurd rfl (other fields)
  | _ => rfl

theorem Tells.isReadable (tells : Tells entry node p) : IsReadable entry := by
  obtain ⟨address, fields, opens, -⟩ := tells
  exact ⟨⟨node, address⟩, fields, opens⟩

theorem Fails.not_isReadable (fails : Fails entry failure) : ¬ IsReadable entry := by
  rintro ⟨⟨node, address⟩, fields, opens⟩
  cases fails with
  | json unread =>
    rw [Json.opens_text, unread] at opens
    cases opens
  | record opens' other => exact other fields (opens'.unique opens)
  | address opens' refused =>
    rw [refused] at address
    cases address

/-- An entry is read as what it says, or as the reason why it says nothing. -/
theorem readEntry_spec (entry : String × Value) :
    (∃ node p, Tells entry node p ∧ readEntry entry.1 entry.2 = .ok (node, p)) ∨
      ∃ failure, Fails entry failure ∧ readEntry entry.1 entry.2 = .error failure := by
  obtain ⟨field, record⟩ := entry
  obtain ⟨content, opens, unfolds⟩ | ⟨s, error, rfl, unread, unfolds⟩ := unfoldRecord_cases record
  · by_cases mapping : ∃ fields, content = .map fields
    · obtain ⟨fields, rfl⟩ := mapping
      obtain ⟨p, made⟩ := exists_ofRecord fields
      rcases address : NodeAddress.parse field with error | node
      · refine .inr ⟨_, .address opens address, ?_⟩
        simp [readEntry, unfolds, made, address, bind, Except.bind]
      · refine .inl ⟨node, p, ⟨address, fields, opens, made⟩, ?_⟩
        simp [readEntry, unfolds, made, address, bind, Except.bind, pure, Except.pure]
    · have other : ∀ fields, content ≠ .map fields := fun fields same => mapping ⟨fields, same⟩
      refine .inr ⟨_, .record opens other, ?_⟩
      simp [readEntry, unfolds, ofRecord_of_other other, bind, Except.bind]
  · refine .inr ⟨_, .json unread, ?_⟩
    simp [readEntry, unfolds, bind, Except.bind]

theorem readEntry_eq_ok : readEntry entry.1 entry.2 = .ok (node, p) ↔ Tells entry node p := by
  obtain ⟨node', p', tells, read⟩ | ⟨failure, fails, read⟩ := readEntry_spec entry
  · rw [read]
    constructor
    · intro same
      cases same
      exact tells
    · rintro ⟨address, fields, opens, made⟩
      obtain ⟨address', fields', opens', made'⟩ := tells
      have same : node' = node := Except.ok.inj (address'.symm.trans address)
      have content : Value.map fields' = .map fields := opens'.unique opens
      rw [content, made] at made'
      rw [same, Except.ok.inj made']
  · rw [read]
    refine iff_of_false (by simp) fun tells => ?_
    exact fails.not_isReadable tells.isReadable

theorem isReadable_iff : IsReadable entry ↔ (readEntry entry.1 entry.2).toOption.isSome := by
  obtain ⟨node, p, tells, read⟩ | ⟨failure, fails, read⟩ := readEntry_spec entry
  · exact iff_of_true tells.isReadable (by rw [read]; rfl)
  · exact iff_of_false fails.not_isReadable (by rw [read]; simp [Except.toOption])

instance : DecidablePred IsReadable := fun _ => decidable_of_iff _ isReadable_iff.symm

end Entry

/-- What entries of which none is nested too deeply decode to: a node has what the last entry
that tells of it says, and the nodes stand in the order in which they are first told of. -/
structure KeepsLatest (entries : List (String × Value)) (placements : Placements) : Prop where
  latest : ∀ node p, Entries.get? placements node = some p ↔ IsLatest entries node p
  order : ∃ nodes, List.Forall₂ (fun entry node => NodeAddress.parse entry.1 = .ok node)
      (entries.filter (IsReadable ·)) nodes ∧
    Entries.keys placements = nodes.eraseDups

/-- Whether events are the reports on the unreadable entries of a source, one for each of them,
in their order. -/
def SkipsUnreadable (source : String) (entries : List (String × Value)) : List Event → Prop :=
  List.Forall₂
    (fun entry event =>
      ∃ failure, Fails entry failure ∧ event = skipReport source (entry.1, failure))
    (entries.filter (¬ IsReadable ·))

section Step

variable {entries : List (String × Value)} {entry : String × Value} {node : NodeAddress}
  {p : Placement} {placements : Placements}

/-- One more entry is the last to tell of a node, or tells nothing of it. -/
theorem isLatest_concat : IsLatest (entries ++ [entry]) node p ↔
    Tells entry node p ∨ (∀ q, ¬ Tells entry node q) ∧ IsLatest entries node p := by
  constructor
  · rintro ⟨before, last, after, split, tells, silent⟩
    -- The entry that tells of the node last is the added one, or the added one comes after it.
    rcases List.eq_nil_or_concat after with rfl | ⟨after, other, rfl⟩
    · obtain ⟨-, same⟩ := List.append_inj' split rfl
      cases same
      exact .inl tells
    · rw [List.concat_eq_append, ← List.cons_append, ← List.append_assoc] at split
      obtain ⟨rest, same⟩ := List.append_inj' split rfl
      cases same
      refine .inr ⟨silent entry (by simp), before, last, after, rest, tells, ?_⟩
      intro later found
      exact silent later (by simp [found])
  · rintro (tells | ⟨silent, before, last, after, rfl, tells, others⟩)
    · exact ⟨entries, entry, [], rfl, tells, by simp⟩
    · refine ⟨before, last, after ++ [entry], by simp, tells, ?_⟩
      intro later found
      obtain found | rfl := List.mem_append.1 found |>.imp_right List.mem_singleton.1
      · exact others later found
      · exact silent

theorem not_isLatest_nil : ¬ IsLatest [] node p := by
  rintro ⟨before, entry, after, split, -⟩
  cases before with
  | nil => cases split
  | cons => cases split

theorem Tells.keepsLatest (tells : Tells entry node p) (keeps : KeepsLatest entries placements) :
    KeepsLatest (entries ++ [entry]) (Entries.insert placements node p) := by
  obtain ⟨latest, nodes, named, keys⟩ := keeps
  constructor
  · intro other q
    rw [isLatest_concat, Entries.get?_insert]
    by_cases same : node = other
    · subst same
      have unique (q : Placement) : Tells entry node q ↔ p = q := by
        rw [← readEntry_eq_ok, readEntry_eq_ok.2 tells]
        simp
      simp [unique]
    · have silent (q : Placement) : ¬ Tells entry other q := by
        rw [← readEntry_eq_ok, readEntry_eq_ok.2 tells]
        simp [same]
      simp [same, silent, latest]
  · -- A node that is known keeps its place, any other one comes last.
    have readable : IsReadable entry := tells.isReadable
    refine ⟨nodes ++ [node], ?_, ?_⟩
    · rw [List.filter_append]
      refine List.rel_append named ?_
      simpa [readable] using tells.address
    · rw [List.eraseDups_append, ← keys]
      by_cases known : node ∈ Entries.keys placements
      · have listed : node ∈ nodes := by simpa [keys] using known
        simp [Entries.keys_insert_of_mem known, List.removeAll, listed]
      · have fresh : node ∉ nodes := by simpa [keys] using known
        rw [Entries.insert_of_notMem known]
        simp [Entries.keys, List.removeAll, fresh, List.eraseDups_cons]

theorem KeepsLatest.of_unreadable (unreadable : ¬ IsReadable entry)
    (keeps : KeepsLatest entries placements) : KeepsLatest (entries ++ [entry]) placements := by
  have silent (node : NodeAddress) (p : Placement) : ¬ Tells entry node p :=
    fun tells => unreadable tells.isReadable
  obtain ⟨latest, order⟩ := keeps
  constructor
  · intro node p
    rw [isLatest_concat, latest]
    simp [silent]
  · rw [List.filter_append]
    simpa [unreadable] using order

end Step

theorem placementsOf_concat (entries : List (String × Value)) (entry : String × Value) :
    placementsOf (entries ++ [entry]) =
      match readEntry entry.1 entry.2 with
      | .ok (node, p) => Entries.insert (placementsOf entries) node p
      | .error _ => placementsOf entries := by
  rw [placementsOf, Entries.ofList, List.filterMap_append, Entries.update_append]
  rcases read : readEntry entry.1 entry.2 with failure | ⟨node, p⟩
  · simp [read, Except.toOption, placementsOf, Entries.ofList]
  · simp [read, Except.toOption, placementsOf, Entries.ofList]

/-- Placements are built entry by entry; each entry is the last one so far. -/
theorem keepsLatest_placementsOf (entries : List (String × Value)) :
    KeepsLatest entries (placementsOf entries) := by
  induction entries using List.reverseRecOn with
  | nil =>
    have empty : placementsOf [] = [] := rfl
    exact ⟨fun node p => by simp [empty, not_isLatest_nil], [], .nil, rfl⟩
  | append_singleton entries entry ih =>
    rw [placementsOf_concat]
    obtain ⟨node, p, tells, read⟩ | ⟨failure, fails, read⟩ := readEntry_spec entry
    · rw [read]
      exact tells.keepsLatest ih
    · rw [read]
      exact ih.of_unreadable fails.not_isReadable

/-- Unreadable entries change no placement. -/
theorem placementsOf_filter (entries : List (String × Value)) :
    placementsOf (entries.filter (IsReadable ·)) = placementsOf entries := by
  rw [placementsOf, placementsOf, List.filterMap_filter]
  congr 2
  funext entry
  by_cases readable : IsReadable entry
  · simp [readable]
  · have unread : (readEntry entry.1 entry.2).toOption = none := by
      simpa [isReadable_iff] using readable
    simp [readable, unread]

theorem skipsUnreadable_faults (source : String) (entries : List (String × Value)) :
    SkipsUnreadable source entries
      (((entries.map reading).filterMap Reading.fault?).map (skipReport source)) := by
  induction entries with
  | nil => exact .nil
  | cons entry rest ih =>
    rw [SkipsUnreadable, List.map_cons]
    obtain ⟨node, p, tells, read⟩ | ⟨failure, fails, read⟩ := readEntry_spec entry
    · have passed : (reading entry).fault? = none := by simp [reading, read, Reading.fault?]
      rw [List.filterMap_cons_none passed, List.filter_cons_of_neg (by simp [tells.isReadable])]
      exact ih
    · have skip : (reading entry).fault? = some (entry.1, failure) := by
        simp [reading, read, Reading.fault?]
      rw [List.filterMap_cons_some skip,
        List.filter_cons_of_pos (by simp [fails.not_isReadable]), List.map_cons]
      exact .cons ⟨failure, fails, rfl⟩ ih

section Run

variable {source : String} {w : World} {entries : List (String × Value)}

theorem isFatal_reading_of_shallow (shallow : ∀ entry ∈ entries, ¬ NestsTooDeep entry) :
    ∀ r ∈ entries.map reading, r.isFatal = false := by
  intro r found
  obtain ⟨entry, listed, rfl⟩ := List.mem_map.1 found
  have whole : ¬ isFatal entry = true := fun fatal => shallow entry listed (isFatal_iff.1 fatal)
  simpa [isFatal_reading] using whole

theorem run_decode_of_shallow (shallow : ∀ entry ∈ entries, ¬ NestsTooDeep entry) :
    (decode source entries).run w =
      ⟨.ok (placementsOf entries),
        ((entries.map reading).filterMap Reading.fault?).map (skipReport source)⟩ := by
  obtain ⟨tells, skips⟩ := told_of_readable (isFatal_reading_of_shallow shallow)
  rw [run_decode, tells, skips, List.filterMap_map]
  rfl

theorem run_decode_of_deep {before after : List (String × Value)} {field s : String}
    {isList : Bool} (shallow : ∀ entry ∈ before, ¬ NestsTooDeep entry)
    (deep : Json.read s = .error (.tooDeep isList)) :
    (decode source (before ++ (field, .text s) :: after)).run w =
      ⟨.error (.json (.tooDeep isList)),
        ((before.map reading).filterMap Reading.fault?).map (skipReport source)⟩ := by
  have stops : (reading (field, .text s)).2 = .error (.json (.tooDeep isList)) := by
    rw [reading, readEntry_eq_tooDeep, unfoldRecord, deep]
    rfl
  have readable := isFatal_reading_of_shallow shallow
  rw [run_decode, List.map_append, List.map_cons, (told_append_fatal readable stops).1,
    (told_append_fatal readable stops).2]

/-- Where no record is nested too deeply, entries decode to what is last told of each node, with
one report for each unreadable entry, and only the readable entries count for the placements.
The first record that is nested too deeply ends the decoding, after the reports on the entries
before it. -/
theorem decode_keepsLatest (source : String) (entries : List (String × Value)) (w : World) :
    ((∀ entry ∈ entries, ¬ NestsTooDeep entry) →
      ∃ placements events, (decode source entries).run w = ⟨.ok placements, events⟩ ∧
        KeepsLatest entries placements ∧ SkipsUnreadable source entries events ∧
        ∀ source' others w', (∀ entry ∈ others, ¬ NestsTooDeep entry) →
          others.filter (IsReadable ·) = entries.filter (IsReadable ·) →
          ((decode source' others).run w').result = .ok placements) ∧
    ∀ before field s after isList, entries = before ++ (field, .text s) :: after →
      (∀ entry ∈ before, ¬ NestsTooDeep entry) → Json.read s = .error (.tooDeep isList) →
      ∃ events, (decode source entries).run w = ⟨.error (.json (.tooDeep isList)), events⟩ ∧
        SkipsUnreadable source before events := by
  constructor
  · intro shallow
    refine ⟨placementsOf entries, _, run_decode_of_shallow shallow,
      keepsLatest_placementsOf entries, skipsUnreadable_faults source entries, ?_⟩
    intro source' others w' shallow' same
    rw [run_decode_of_shallow shallow', ← placementsOf_filter others, same, placementsOf_filter]
  · rintro before field s after isList rfl shallow deep
    exact ⟨_, run_decode_of_deep shallow deep, skipsUnreadable_faults source before⟩

/-- A node under three spellings, where the second one is garbled and the third one counts; a
record that is nested too deeply behind them ends it all. -/
theorem decode_keepsLatest_of_respelled :
    let first : List (String × Value) :=
      [("10.0.0.2", .map [(.text "rack", .text "3")]), ("10.0.0.2:7000", .text "[]"),
        ("n", .text "\x7b\x7d")]
    let last : String × Value := (" 10.0.0.2 ", .text "\x7b\"rack\":\"4\"\x7d")
    let s := String.ofList (List.replicate (Json.maxDepth + 1) '[' ++ [])
    let w : World := ⟨fun _ => .unreachable "", ⟨[], none, none⟩, ⟨[]⟩, none, ""⟩
    (∀ entry ∈ first ++ [last], ¬ NestsTooDeep entry) ∧ Json.read s = .error (.tooDeep true) ∧
    (∃ placements events, (decode "p" (first ++ [last])).run w = ⟨.ok placements, events⟩ ∧
      Entries.get? placements ⟨"10.0.0.2", 7000⟩ = some ⟨"", "4"⟩ ∧
      Entries.keys placements = [⟨"10.0.0.2", 7000⟩, ⟨"n", 7000⟩] ∧ events.length = 1) ∧
    ((decode "p" (first ++ [last] ++ [("m", .text s)])).run w).result =
      .error (.json (.tooDeep true)) := by
  intro first last s w
  have deep : Json.read s = .error (.tooDeep true) :=
    (Json.overtaxes_text.1 (Json.overtaxes_brackets [])).1
  clear_value s
  have list : Json.read "[]" = .ok (.list []) := by cbv
  have empty : Json.read "\x7b\x7d" = .ok (.map []) := by cbv
  have rack : Json.read "\x7b\"rack\":\"4\"\x7d" = .ok (.map [(.text "rack", .text "4")]) := by cbv
  have shallow : ∀ entry ∈ first ++ [last], ¬ NestsTooDeep entry := by
    intro entry found
    simp only [first, last, List.cons_append, List.nil_append, List.mem_cons, List.not_mem_nil,
      or_false] at found
    rcases found with rfl | rfl | rfl | rfl <;>
      simp [NestsTooDeep, Json.IsTooDeep, list, empty, rack]
  have tellsFirst : Tells ("10.0.0.2", .map [(.text "rack", .text "3")]) ⟨"10.0.0.2", 7000⟩
      ⟨"", "3"⟩ := ⟨by decide +kernel, _, .direct (by simp), by decide +kernel⟩
  have garbled : Fails ("10.0.0.2:7000", .text "[]") (.notRecord "list") :=
    .record (.text list) (by simp)
  have tellsName : Tells ("n", .text "\x7b\x7d") ⟨"n", 7000⟩ ⟨"", ""⟩ :=
    ⟨by decide +kernel, _, .text empty, rfl⟩
  have tellsLast : Tells last ⟨"10.0.0.2", 7000⟩ ⟨"", "4"⟩ :=
    ⟨by decide +kernel, _, .text rack, by decide +kernel⟩
  obtain ⟨placements, events, runs, ⟨latest, nodes, named, order⟩, skips, -⟩ :=
    (decode_keepsLatest "p" (first ++ [last]) w).1 shallow
  obtain ⟨_, ends, -⟩ := (decode_keepsLatest "p" (first ++ [last] ++ [("m", .text s)]) w).2
    (first ++ [last]) "m" s [] true rfl shallow deep
  have verdicts := And.intro tellsFirst.isReadable (And.intro garbled.not_isReadable
    (And.intro tellsName.isReadable tellsLast.isReadable))
  refine ⟨shallow, deep, ⟨placements, events, runs, ?_, ?_, ?_⟩, by rw [ends]⟩
  · exact (latest _ _).2 ⟨first, last, [], rfl, tellsLast, by simp⟩
  · have known : nodes = [⟨"10.0.0.2", 7000⟩, ⟨"n", 7000⟩, ⟨"10.0.0.2", 7000⟩] := by
      simpa [first, verdicts, List.forall₂_cons_left_iff, tellsFirst.address, tellsName.address,
        tellsLast.address] using named
    rw [order, known]
    decide
  · rw [← List.Forall₂.length_eq skips]
    simp [first, verdicts]

end Run

end Store

end ClusterTopology
