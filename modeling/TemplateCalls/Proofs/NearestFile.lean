import Mathlib.Data.List.Pairwise
import TemplateCalls.CommandLine.Compilation
import TemplateCalls.Proofs.Outcome

/-!
# The nearest file with settings

A look-up of the file with settings is told here by its answers alone: at which paths there is an
entry. The search looks at a directory and at those around it, from the inside out, so it finds the
file in the deepest of them that has one, whatever the entry is. Only what a deeper directory or
this one has can change that: entries in other directories do not count, nor do those further out.
-/

namespace TemplateCalls

open Files (Path Found)

namespace Files.Path

variable {directory path : Path}

/-- A directory is around a path if it is the path itself or above it. -/
def IsAround (directory path : Path) : Prop :=
  directory.root = path.root ∧ directory.parts <+: path.parts

/-- The directories that are searched are those around a path, itself among them. -/
theorem mem_ancestors_iff : directory ∈ path.ancestors ↔ directory.IsAround path := by
  rcases directory with ⟨root, parts⟩
  simp only [ancestors, List.mem_map, List.mem_reverse, List.mem_range, mk.injEq, IsAround]
  constructor
  · rintro ⟨count, _, hroot, hparts⟩
    exact ⟨hroot.symm, hparts ▸ List.take_prefix count path.parts⟩
  · rintro ⟨hroot, hparts⟩
    exact ⟨parts.length, Nat.lt_succ_of_le hparts.length_le, hroot.symm,
      (List.prefix_iff_eq_take.mp hparts).symm⟩

/-- The directories around a path are listed from the inside out. -/
theorem pairwise_ancestors (path : Path) :
    path.ancestors.Pairwise fun inner outer ↦ outer.parts.length < inner.parts.length := by
  have hlength : ∀ count ∈ (List.range (path.parts.length + 1)).reverse,
      (path.parts.take count).length = count := by
    intro count hcount
    rw [List.mem_reverse, List.mem_range] at hcount
    exact List.length_take_of_le (Nat.le_of_lt_succ hcount)
  have hcounts : (List.range (path.parts.length + 1)).reverse.Pairwise (· > ·) :=
    List.pairwise_reverse.mpr List.pairwise_lt_range
  refine List.pairwise_map.mpr (hcounts.imp_of_mem fun {inner outer} hinner houter hlt ↦ ?_)
  rw [hlength inner hinner, hlength outer houter]
  exact hlt

end Files.Path

namespace Settings

/-! ## Entries -/

/-- What a look-up answers where there is an entry, of whatever kind, and where there is none. -/
inductive Answers : Found → Bool → Prop
  | nothing : Answers .nothing false
  | directory : Answers .directory true
  | file (text : String) : Answers (.file text) true

variable {present : Path → Bool} {find : Path → Found} {start : Path}

theorem firstEntry_eq_find? (hfind : ∀ place, Answers (find place) (present place))
    (places : List Path) : firstEntry find places = .ok (places.find? present) := by
  induction places with
  | nil => rfl
  | cons place rest ih =>
    have hplace := hfind place
    rw [firstEntry, List.find?_cons]
    generalize find place = found, present place = answer at hplace
    cases hplace with
    | nothing => exact ih
    | directory | file => rfl

/-- The first of the directories around a path that has the file, from the inside out. -/
def directoryOf? (present : Path → Bool) (start : Path) : Option Path :=
  start.ancestors.find? fun directory ↦ present (directory.child fileName)

/-- The search finds the file in the nearest directory. -/
theorem nearest_eq (hfind : ∀ place, Answers (find place) (present place)) (start : Path) :
    nearest find start = .ok ((directoryOf? present start).map (·.child fileName)) := by
  rw [nearest, firstEntry_eq_find? hfind, candidates, List.find?_map]
  rfl

/-! ## The nearest directory -/

/-- The deepest of the directories around a path that have the file. -/
structure IsNearest (present : Path → Bool) (start directory : Path) : Prop where
  around : directory.IsAround start
  hasFile : present (directory.child fileName) = true
  deepest : ∀ other : Path, other.IsAround start → present (other.child fileName) = true →
    other.parts.length ≤ directory.parts.length

/-- A directory is found exactly if it is the nearest with the file. -/
theorem directoryOf?_eq_some_iff {directory : Path} :
    directoryOf? present start = some directory ↔ IsNearest present start directory := by
  rw [directoryOf?, List.find?_eq_some_iff_append]
  constructor
  · rintro ⟨hpresent, inner, outer, hsplit, hinner⟩
    have hordered := hsplit ▸ start.pairwise_ancestors
    have houter := (List.pairwise_cons.mp (List.pairwise_append.mp hordered).2.1).1
    refine ⟨Path.mem_ancestors_iff.mp (hsplit ▸ List.mem_append_right inner List.mem_cons_self),
      hpresent, fun other haround hother ↦ ?_⟩
    have hmem : other ∈ inner ++ directory :: outer :=
      hsplit ▸ Path.mem_ancestors_iff.mpr haround
    rcases List.mem_append.mp hmem with hmem | hmem
    · have hnot := hinner other hmem
      rw [hother] at hnot
      cases hnot
    · rcases List.mem_cons.mp hmem with rfl | hmem
      · exact Nat.le_refl _
      · exact Nat.le_of_lt (houter other hmem)
  · rintro ⟨haround, hpresent, hdeepest⟩
    obtain ⟨inner, outer, hsplit⟩ := List.append_of_mem (Path.mem_ancestors_iff.mpr haround)
    have hordered := hsplit ▸ start.pairwise_ancestors
    refine ⟨hpresent, inner, outer, hsplit, fun other hother ↦ ?_⟩
    have hdeeper := (List.pairwise_append.mp hordered).2.2 other hother directory
      List.mem_cons_self
    have hother : other.IsAround start :=
      Path.mem_ancestors_iff.mp (hsplit ▸ List.mem_append_left _ hother)
    rw [Bool.not_eq_true']
    by_contra hnot
    rw [Bool.not_eq_false] at hnot
    exact Nat.not_lt.mpr (hdeepest other hother hnot) hdeeper

/-- Nothing is found exactly if no directory around has the file. -/
theorem directoryOf?_eq_none_iff :
    directoryOf? present start = none ↔
      ∀ directory : Path, directory.IsAround start →
        present (directory.child fileName) = false := by
  simp only [directoryOf?, List.find?_eq_none, Path.mem_ancestors_iff, Bool.not_eq_true]

/-- Only the directories around a path count, and of them only those that are no further out than
the nearest one. -/
theorem directoryOf?_congr {other : Path → Bool}
    (hsame : ∀ directory : Path, directory.IsAround start →
      (∀ found, IsNearest present start found → found.parts.length ≤ directory.parts.length) →
        other (directory.child fileName) = present (directory.child fileName)) :
    directoryOf? other start = directoryOf? present start := by
  cases hfound : directoryOf? present start with
  | none =>
    rw [directoryOf?_eq_none_iff] at hfound ⊢
    intro directory haround
    rw [hsame directory haround fun found hnearest ↦ ?_]
    · exact hfound directory haround
    · have hnot := hfound found hnearest.around
      rw [hnearest.hasFile] at hnot
      cases hnot
  | some found =>
    have hunique : ∀ another, IsNearest present start another → another = found :=
      fun another hanother ↦
        Option.some.inj ((directoryOf?_eq_some_iff.mpr hanother).symm.trans hfound)
    rw [directoryOf?_eq_some_iff] at hfound ⊢
    have hsame : ∀ directory : Path, directory.IsAround start →
        found.parts.length ≤ directory.parts.length →
          other (directory.child fileName) = present (directory.child fileName) :=
      fun directory haround hlength ↦
        hsame directory haround fun another hanother ↦ hunique another hanother ▸ hlength
    refine ⟨hfound.around, ?_, fun directory haround hdirectory ↦ ?_⟩
    · rw [hsame found hfound.around (Nat.le_refl _)]
      exact hfound.hasFile
    · rcases Nat.le_total directory.parts.length found.parts.length with hlength | hlength
      · exact hlength
      · rw [hsame directory haround hlength] at hdirectory
        exact hfound.deepest directory haround hdirectory

end Settings

namespace CommandLine

open Settings

/-- The search from a directory that is given, or else from the current one, finds the file in the
nearest directory that has one, and nothing if none has; it is the search that a compilation makes
that is not given a file. It finds the same wherever the same directories have the file, up to the
one in which it is found. -/
theorem search_finds_nearest {surroundings : Surroundings} {present : Path → Bool}
    (hfind : ∀ place, Answers (surroundings.find place) (present place)) (given : Option Path) :
    let start := given.getD surroundings.directory
    let outcome := nearest surroundings.find start
    (∀ path, outcome = .ok (some path) ↔
      ∃ directory, IsNearest present start directory ∧ path = directory.child fileName) ∧
    (outcome = .ok none ↔
      ∀ directory : Path, directory.IsAround start →
        present (directory.child fileName) = false) ∧
    (∃ found, outcome = .ok found) ∧
    (given = none → selectFile surroundings none = outcome) ∧
    ∀ (find : Path → Found) (other : Path → Bool),
      (∀ place, Answers (find place) (other place)) →
      (∀ directory : Path, directory.IsAround start →
        (∀ found, IsNearest present start found → found.parts.length ≤ directory.parts.length) →
          other (directory.child fileName) = present (directory.child fileName)) →
      nearest find start = outcome := by
  intro start outcome
  have houtcome : outcome = .ok ((directoryOf? present start).map (·.child fileName)) :=
    nearest_eq hfind start
  refine ⟨fun path ↦ ?_, ?_, ⟨_, houtcome⟩, fun hgiven ↦ ?_, fun find other hother hsame ↦ ?_⟩
  · rw [houtcome, Except.ok.injEq, Option.map_eq_some_iff]
    exact exists_congr fun directory ↦ and_congr directoryOf?_eq_some_iff eq_comm
  · rw [houtcome, Except.ok.injEq, Option.map_eq_none_iff, directoryOf?_eq_none_iff]
  · have hstart : start = surroundings.directory := congrArg (Option.getD · _) hgiven
    rw [selectFile, ← hstart]
  · rw [nearest_eq hother, houtcome, directoryOf?_congr hsame]

/-- A directory in the place of the file is found before a file further out, also from a directory
that does not exist, and whatever is done to the file further out and in other directories. -/
theorem search_finds_nearest_directory_entry :
    let entries (places : List String) (place : Path) : Found :=
      if place.toString ∈ places then .directory else .nothing
    let present (places : List String) (place : Path) : Bool := place.toString ∈ places
    let places := ["/tplgen.yaml", "/a/tplgen.yaml"]
    let others := ["/a/tplgen.yaml", "/b/tplgen.yaml", "/a/c/tplgen.yaml"]
    let start := Path.ofString "/a/b/./c"
    let surroundings : Surroundings :=
      { directory := Path.ofString "/b", find := entries places }
    (∀ place, Answers (entries places place) (present places place)) ∧
    IsNearest (present places) start (Path.ofString "/a") ∧
    nearest surroundings.find start = .ok (some (Path.ofString "/a/tplgen.yaml")) ∧
    nearest (entries others) start = .ok (some (Path.ofString "/a/tplgen.yaml")) := by
  intro entries present places others start surroundings
  have hanswers : ∀ (places : List String) (place : Path),
      Answers (entries places place) (present places place) := by
    intro places place
    dsimp only [entries, present]
    split
    · next hplace =>
      rw [decide_eq_true hplace]
      exact .directory
    · next hplace =>
      rw [decide_eq_false hplace]
      exact .nothing
  have hnearest : IsNearest (present places) start (Path.ofString "/a") :=
    directoryOf?_eq_some_iff.mp (by decide +kernel)
  have hfind : ∀ place, Answers (surroundings.find place) (present places place) :=
    hanswers places
  obtain ⟨hfound, _, _, _, hsame⟩ := search_finds_nearest hfind (some start)
  have houtcome : nearest surroundings.find start = .ok (some (Path.ofString "/a/tplgen.yaml")) :=
    (hfound _).mpr ⟨_, hnearest, by decide +kernel⟩
  refine ⟨hfind, hnearest, houtcome, ?_⟩
  rw [← houtcome]
  refine hsame (entries others) (present others) (hanswers others) fun directory haround hinner ↦ ?_
  have hagree : ∀ directory ∈ start.ancestors, 1 ≤ directory.parts.length →
      present others (directory.child fileName) = present places (directory.child fileName) := by
    decide +kernel
  exact hagree directory (Path.mem_ancestors_iff.mpr haround) (hinner _ hnearest)

end CommandLine

end TemplateCalls
