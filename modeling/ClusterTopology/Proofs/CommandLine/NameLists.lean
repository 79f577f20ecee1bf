import ClusterTopology.Proofs.CommandLine.Report
import ClusterTopology.Proofs.Locations.Union
import Mathlib.Data.List.Perm.Subperm

/-!
# Lists of names

How a list of names may be written in other ways: its pieces in another order, pieces once more or
once less, and other blanks around pieces. However it is written, the same names are left once the
blanks are off. So a list stands for the set of its names, each of which is on the list that is
checked once.
-/

namespace ClusterTopology

namespace Text

section Trim

variable {before after cs : List Char}

theorem trimStart_append (blank : ∀ c ∈ before, isBlank c = true) :
    trimStart (before ++ cs) = trimStart cs :=
  List.dropWhile_append_of_pos blank

theorem trimEnd_append_blank (blank : ∀ c ∈ after, isBlank c = true) :
    trimEnd (cs ++ after) = trimEnd cs := by
  rw [trimEnd, List.reverse_append, List.dropWhile_append_of_pos (by simpa using blank), trimEnd]

/-- Blanks around a text are no part of it. -/
theorem trim_padded (blank : ∀ c ∈ before ++ after, isBlank c = true) :
    trim (before ++ cs ++ after) = trim cs := by
  obtain ⟨blankBefore, blankAfter⟩ := List.forall_mem_append.1 blank
  rw [trim, List.append_assoc, trimStart_append blankBefore, trim, trimStart,
    List.dropWhile_append]
  split
  · next empty =>
    -- Only blanks are left, before and after them.
    have nothing : after.dropWhile isBlank = [] := List.dropWhile_eq_nil_iff.2 blankAfter
    rw [nothing, trimStart, List.isEmpty_iff.1 empty]
  · exact trimEnd_append_blank blankAfter

end Trim

/-- Lists of pieces that are the same but for the order of the pieces, how often each of them is
there, and the blanks around them. -/
inductive Rewritten : List (List Char) → List (List Char) → Prop where
  | perm {pieces others : List (List Char)} (same : pieces.Perm others) : Rewritten pieces others
  | again {piece : List Char} {pieces : List (List Char)} (known : piece ∈ pieces) :
    Rewritten pieces (piece :: pieces)
  | padded {before piece after : List Char} {rest : List (List Char)}
    (blank : ∀ c ∈ before ++ after, isBlank c = true) :
    Rewritten (piece :: rest) ((before ++ piece ++ after) :: rest)
  | symm {pieces others : List (List Char)} (back : Rewritten others pieces) :
    Rewritten pieces others
  | trans {pieces between others : List (List Char)} (first : Rewritten pieces between)
    (second : Rewritten between others) : Rewritten pieces others

/-- However a list is written, it has the same pieces once the blanks are off. -/
theorem Rewritten.mem_trim_iff {pieces others : List (List Char)}
    (rewritten : Rewritten pieces others) (text : List Char) :
    text ∈ pieces.map trim ↔ text ∈ others.map trim := by
  induction rewritten with
  | perm same => exact (same.map trim).mem_iff
  | again known =>
    rw [List.map_cons, List.mem_cons, or_iff_right_of_imp]
    rintro rfl
    exact List.mem_map_of_mem known
  | padded blank => rw [List.map_cons, List.map_cons, trim_padded blank]
  | symm _ ih => exact ih.symm
  | trans _ _ ih ih' => exact ih.trans ih'

end Text

namespace CommandLine

/-- The list of names that is given for an attribute, if there is one. -/
def Arguments.list (args : Arguments) : Attribute → Option OptionValue
  | .datacenter => args.datacenters
  | .rack => args.racks

/-- Values of an option that are the same list of names, however it is written. -/
inductive SameList : Option OptionValue → Option OptionValue → Prop where
  | kept {option : Option OptionValue} : SameList option option
  | rewritten {s t : String}
    (rewritten : Text.Rewritten (Text.splitAt ',' s.toList) (Text.splitAt ',' t.toList)) :
    SameList (some (.text s)) (some (.text t))

/-- What is asked for is the same, but for the lists of names. -/
structure SameButLists (args other : Arguments) : Prop where
  config : other.config = args.config
  createConfig : other.createConfig = args.createConfig
  endpoints : other.endpoints = args.endpoints
  validate : other.validate = args.validate

/-- What is asked for is the same, but for how the lists of names are written. -/
structure SameNames (args other : Arguments) : Prop extends SameButLists args other where
  lists : ∀ key, SameList (args.list key) (other.list key)

theorem SameButLists.refl (args : Arguments) : SameButLists args args :=
  ⟨rfl, rfl, rfl, rfl⟩

theorem SameButLists.trans {args between other : Arguments} (first : SameButLists args between)
    (second : SameButLists between other) : SameButLists args other where
  config := second.config.trans first.config
  createConfig := second.createConfig.trans first.createConfig
  endpoints := second.endpoints.trans first.endpoints
  validate := second.validate.trans first.validate

/-- A list that is given as a text, or not at all, can be read. -/
theorem exists_names_of_text {option : Option OptionValue} (text : option ≠ some .nothing) :
    ∃ list, names option = .ok list := by
  rcases option with _ | _ | _
  · exact ⟨_, rfl⟩
  · exact ⟨_, rfl⟩
  · exact absurd rfl text

theorem nodup_names {option : Option OptionValue} {list : List String}
    (given : names option = .ok list) : list.Nodup := by
  rcases option with _ | _ | text
  · cases given
    exact List.nodup_nil
  · cases given
    exact Locations.nodup_eraseDups _
  · cases given

theorem listed_text_iff {s name : String} : Listed (some (.text s)) name ↔
    name.toList ∈ (Text.splitAt ',' s.toList).map Text.trim := by
  simp only [Listed, Option.some.injEq, OptionValue.text.injEq, exists_eq_left', List.mem_map]
  refine exists_congr fun piece => and_congr_right fun _ => ?_
  rw [← String.toList_inj, String.toList_ofList, eq_comm]

theorem SameList.listed_iff {option other : Option OptionValue} (same : SameList option other)
    (name : String) : Listed option name ↔ Listed other name := by
  cases same with
  | kept => rfl
  | rewritten rewritten => rw [listed_text_iff, listed_text_iff, rewritten.mem_trim_iff]

/-- However a list is written, the same names are on it. -/
theorem SameList.names {option other : Option OptionValue} {list : List String}
    (same : SameList option other) (given : names option = .ok list) :
    ∃ others, CommandLine.names other = .ok others ∧ list.Perm others := by
  obtain ⟨others, givenToo⟩ : ∃ others, CommandLine.names other = .ok others := by
    cases same with
    | kept => exact ⟨list, given⟩
    | rewritten => exact ⟨_, rfl⟩
  refine ⟨others, givenToo, (List.perm_ext_iff_of_nodup (nodup_names given)
    (nodup_names givenToo)).2 fun name => ?_⟩
  rw [mem_names given, mem_names givenToo, same.listed_iff]

end CommandLine

end ClusterTopology
