import SearchKit.Proofs.Url.AddedSegments

/-!
Segments that are not carried are lost: no path that misses one of the conditions still says what
was added to it. Characters that vanish are counted, since a segment that is split or that climbs to
the directory above may change how many segments there are; once none vanish, the number of segments
tells whether one was left out.
-/

namespace SearchKit.Url

set_option autoImplicit false

/-! ## Characters that vanish -/

def SaysVanishing (bytes : List UInt8) : Prop :=
  ∃ text, bytes = utf8 text ∧ ∃ character ∈ text, isDropped character = true

theorem not_says_vanishing {text : List Char}
    (allVisible : ∀ character ∈ text, isDropped character = false) :
    ¬SaysVanishing (utf8 text) := by
  rintro ⟨other, same, character, member, dropped⟩
  rw [utf8_injective same] at allVisible
  rw [allVisible character member] at dropped
  contradiction

section Vanishing

open scoped Classical in
/-- How many segments of a path say characters that vanish. -/
noncomputable def vanishingCount (path : Path) : Nat :=
  path.countP fun segment => SaysVanishing (decode segment)

variable {kind : SchemeKind} {reserved : Char → Bool}

theorem vanishing_count_le_of_sublist {part path : Path} (sublist : part.Sublist path) :
    vanishingCount part ≤ vanishingCount path :=
  sublist.countP_le

theorem vanishing_count_append (path added : Path) :
    vanishingCount (path ++ added) = vanishingCount path + vanishingCount added :=
  List.countP_append

theorem vanishing_count_eq_zero {path : Path} :
    vanishingCount path = 0 ↔ ∀ segment ∈ path, ¬SaysVanishing (decode segment) := by
  simp [vanishingCount, List.countP_eq_zero]

theorem no_vanishing_empty : ¬SaysVanishing (decode []) := by
  have none : ∀ character ∈ ([] : List Char), isDropped character = false := by simp
  exact not_says_vanishing none

theorem vanishing_count_root : vanishingCount Path.root = 0 := by
  rw [vanishing_count_eq_zero]
  simpa [Path.root] using no_vanishing_empty

theorem vanishing_count_directory_le (path : Path) :
    vanishingCount path.directory ≤ vanishingCount path := by
  rw [Path.directory]
  split
  · exact Nat.zero_le _
  · exact Nat.le_refl _

theorem vanishing_count_settle_le (path : Path) :
    vanishingCount (Path.settle kind path) ≤ vanishingCount path := by
  rw [Path.settle]
  split
  · rw [Path.trimRoot]
    split
    · rw [vanishing_count_root]
      exact Nat.zero_le _
    · exact vanishing_count_le_of_sublist (List.dropWhile_sublist _)
  · exact Nat.le_refl _

theorem vanishing_count_close_le (directory : Path) {step : Path.Step}
    (added : step.Adds fun segment => ¬SaysVanishing (decode segment)) :
    vanishingCount (Path.close directory step) ≤ vanishingCount directory := by
  have behind {kept more : Path} (sublist : kept.Sublist directory)
      (clean : ∀ segment ∈ more, ¬SaysVanishing (decode segment)) :
      vanishingCount (kept ++ more) ≤ vanishingCount directory := by
    rw [vanishing_count_append, vanishing_count_eq_zero.mpr clean]
    exact vanishing_count_le_of_sublist sublist
  have all := List.Sublist.refl directory
  cases step with
  | above =>
      apply behind
      · rw [Path.above]
        split
        · exact all
        · exact List.dropLast_sublist directory
      · simpa using no_vanishing_empty
  | here => exact behind all (by simpa using no_vanishing_empty)
  | drive letter => exact behind all (by simpa [Path.Step.Adds] using added)
  | driveAndName letter segment => exact behind all (by simpa [Path.Step.Adds] using added)
  | name segment => exact behind all (by simpa [Path.Step.Adds] using added)

theorem vanishing_count_push_le (percent : reserved '%' = true) (path : Path) (text : List Char) :
    vanishingCount (path.push kind reserved text) ≤ vanishingCount path := by
  have added : (Path.Step.ofText kind reserved path.directory text).Adds
      fun segment => ¬SaysVanishing (decode segment) := by
    apply Path.adds_of_text
    · intro letter isLetter
      rw [decode_drive isLetter]
      apply not_says_vanishing
      intro character member
      simp only [List.mem_cons, List.not_mem_nil, or_false] at member
      rcases member with rfl | rfl
      · by_contra dropped
        simp only [isDropped, List.mem_cons, List.not_mem_nil, or_false, decide_eq_false_iff_not,
          Classical.not_not] at dropped
        rcases dropped with rfl | rfl | rfl <;> exact absurd isLetter (by decide)
      · rfl
    · intro part visible
      rw [decode_encode reserved percent]
      exact not_says_vanishing fun character member => (visible character member).2
  calc vanishingCount (path.push kind reserved text)
      ≤ vanishingCount (Path.close path.directory _) := vanishing_count_settle_le _
    _ ≤ vanishingCount path.directory := vanishing_count_close_le _ added
    _ ≤ vanishingCount path := vanishing_count_directory_le path

theorem vanishing_count_fold_le (segments : List String) (path : Path) :
    vanishingCount (segments.foldl (pushSegment kind) path) ≤ vanishingCount path := by
  induction segments generalizing path with
  | nil => exact Nat.le_refl _
  | cons segment rest ih =>
      rw [List.foldl_cons]
      apply Nat.le_trans (ih _)
      rw [pushSegment]
      split
      · exact Nat.le_refl _
      · exact vanishing_count_push_le (segment_reserved_marks kind).1 path _

theorem vanishing_count_start_le {url : Url} (read : ReadPath url) :
    vanishingCount url.path.dropTrailing ≤ vanishingCount url.path.stem := by
  rcases Path.start_cases read.settled with ⟨-, start⟩ | twice | ⟨start, -⟩
  · rw [Path.directory] at start
    split at start
    · rename_i isRoot
      rw [isRoot, vanishing_count_root]
      exact Nat.zero_le _
    · rw [start]
      exact Nat.zero_le _
  · have start : Path.dropTrailing [[], []] = Path.root := rfl
    rw [twice, start, vanishing_count_root]
    exact Nat.zero_le _
  · exact Nat.le_of_eq (by rw [start])

theorem all_visible_of_keeps {url : Url} (read : ReadPath url) {segments : List String}
    (keeps : Keeps url segments) :
    ∀ segment ∈ segments, ∀ character ∈ segment.toList, isDropped character = false := by
  classical
  rw [keeps_eq_fold read] at keeps
  have counted := congrArg (List.countP fun bytes => decide (SaysVanishing bytes)) keeps
  rw [List.countP_append, List.countP_map, List.countP_map] at counted
  change vanishingCount _ = vanishingCount _ + _ at counted
  have bounded : vanishingCount (segments.foldl (pushSegment url.kind) url.path.dropTrailing) ≤
      vanishingCount url.path.stem :=
    Nat.le_trans (vanishing_count_fold_le segments _) (vanishing_count_start_le read)
  have none : (segments.map fun segment => utf8 segment.toList).countP
      (fun bytes => decide (SaysVanishing bytes)) = 0 := by
    omega
  rw [List.countP_eq_zero] at none
  intro segment member character inSegment
  by_contra dropped
  apply none _ (List.mem_map_of_mem member)
  rw [decide_eq_true_eq]
  exact ⟨segment.toList, rfl, character, inSegment, Bool.not_eq_false _ ▸ dropped⟩

end Vanishing

/-! ## The number of segments -/

section Length

variable {segments : List String}

def keptCount (segments : List String) : Nat :=
  segments.countP fun segment => decide (segment ≠ "." ∧ segment ≠ "..")

theorem Path.length_close_le (directory : Path) {step : Path.Step}
    (whole : ∀ letter segment, step ≠ .driveAndName letter segment) :
    (Path.close directory step).length ≤ directory.length + 1 := by
  cases step with
  | above =>
      rw [Path.close, List.length_append, List.length_singleton, Path.above]
      split
      · exact Nat.le_refl _
      · exact Nat.succ_le_succ (List.dropLast_sublist directory).length_le
  | driveAndName letter segment => exact absurd rfl (whole letter segment)
  | here | drive _ | name _ => exact Nat.le_of_eq List.length_append

/-- Only a drive with a name behind it is two segments in one. -/
theorem Path.of_text_ne_drive_and_name {kind : SchemeKind} {reserved : Char → Bool}
    {directory : Path} {text : List Char}
    (whole : kind = .file → directory = [] → Path.splitDrive? text = none) (letter : Char)
    (segment : List Char) :
    Step.ofText kind reserved directory text ≠ .driveAndName letter segment := by
  have plain (text : List Char) : Step.ofSegment text ≠ .driveAndName letter segment := by
    rw [Step.ofSegment]
    split
    · simp
    · split <;> simp
  rw [Step.ofText]
  split
  · rename_i root
    rw [Step.ofRootText, whole root.1 root.2]
    split
    · simp
    · contradiction
    · exact plain _
  · exact plain _

theorem length_push_le {kind : SchemeKind} {path : Path} {segment : String}
    (whole : kind = .file → path.directory = [] → Path.splitDrive? segment.toList = none) :
    (pushSegment kind path segment).directory.length ≤ path.directory.length + 1 := by
  rw [pushSegment]
  split
  · exact Nat.le_succ _
  · exact Nat.le_trans Path.length_settle_le
      (Path.length_close_le _ (Path.of_text_ne_drive_and_name whole))

theorem length_fold_le (kind : SchemeKind)
    (whole : kind = .file → ∀ segment ∈ segments, Path.splitDrive? segment.toList = none)
    (path : Path) :
    (segments.foldl (pushSegment kind) path).directory.length ≤
      path.directory.length + keptCount segments := by
  induction segments generalizing path with
  | nil => exact Nat.le_refl _
  | cons segment rest ih =>
      have further := ih (fun isFile => (List.forall_mem_cons.mp (whole isFile)).2)
        (pushSegment kind path segment)
      rw [List.foldl_cons]
      by_cases noDots : segment ≠ "." ∧ segment ≠ ".."
      · have added : (pushSegment kind path segment).directory.length ≤ path.directory.length + 1 :=
          length_push_le fun isFile _ => (List.forall_mem_cons.mp (whole isFile)).1
        have counted : keptCount (segment :: rest) = keptCount rest + 1 :=
          List.countP_cons_of_pos (decide_eq_true noDots)
        omega
      · have skipped : pushSegment kind path segment = path := by
          rw [pushSegment, if_pos]
          simpa only [ne_eq, not_and_or, Classical.not_not] using noDots
        have counted : keptCount (segment :: rest) = keptCount rest :=
          List.countP_cons_of_neg (by rwa [decide_eq_true_eq])
        rw [skipped] at further ⊢
        omega

theorem kept_count_le (segments : List String) : keptCount segments ≤ segments.length :=
  List.countP_le_length

theorem no_dots_of_kept_count (all : keptCount segments = segments.length) :
    ∀ segment ∈ segments, segment ≠ "." ∧ segment ≠ ".." := by
  intro segment member
  exact of_decide_eq_true (List.countP_eq_length.mp all segment member)

end Length

theorem start_length_le {url : Url} (read : ReadPath url) :
    url.path.dropTrailing.directory.length ≤ url.path.stem.length ∧
      (url.path = [[], []] → url.path.dropTrailing.directory.length < url.path.stem.length) := by
  rcases Path.start_cases read.settled with ⟨stem, start⟩ | twice | ⟨start, stands⟩
  · rw [stem, start]
    refine ⟨Nat.le_refl _, ?_⟩
    intro twice
    rw [twice] at stem
    contradiction
  · rw [twice]
    exact ⟨by decide, fun _ => by decide⟩
  · rw [start, Path.directory_of_stands stands]
    refine ⟨Nat.le_refl _, ?_⟩
    intro twice
    rw [twice] at stands
    exact absurd rfl stands.not_root

theorem start_of_stem {url : Url} (read : ReadPath url) (stem : url.path.stem = []) :
    url.path.dropTrailing.directory = [] := by
  have bounded := (start_length_le read).1
  rw [stem] at bounded
  exact List.length_eq_zero_iff.mp (Nat.le_zero.mp bounded)

section Kept

variable {url : Url} {segments : List String}

/-- The root says one empty segment, so it keeps nothing else. -/
theorem carries_of_root
    (keeps : Path.root.map decode =
      url.path.stem.map decode ++ segments.map fun segment => utf8 segment.toList)
    (some : segments ≠ []) : Carries url segments := by
  have counted := congrArg List.length keeps
  rw [List.length_append, List.length_map, List.length_map, List.length_map] at counted
  have several := List.length_pos_iff.mpr some
  have single : Path.root.length = 1 := rfl
  have stem : url.path.stem = [] := List.length_eq_zero_iff.mp (by omega)
  obtain ⟨segment, rfl⟩ := List.length_eq_one_iff.mp (by omega : segments.length = 1)
  rw [stem] at keeps
  injection keeps with said
  have none : segment = "" := String.toList_injective (utf8_injective said.symm)
  subst none
  refine ⟨?_, by simp, by simp, fun _ _ => rfl, ?_⟩
  · intro twice
    rw [twice] at stem
    contradiction
  · intro _ _ letter _ same
    have chars := congrArg (Option.map String.toList) same
    simp at chars

theorem first_of_length (read : ReadPath url) (stem : url.path.stem = [])
    (allVisible : ∀ segment ∈ segments, ∀ character ∈ segment.toList, isDropped character = false)
    (whole : segments.length ≤
      (segments.foldl (pushSegment url.kind) url.path.dropTrailing).directory.length) :
    segments.head? ≠ some "" := by
  intro isEmpty
  obtain ⟨rest, rfl⟩ : ∃ rest, segments = "" :: rest := List.head?_eq_some_iff.mp isEmpty
  have start := start_of_stem read stem
  rw [List.forall_mem_cons] at allVisible
  have bounded := length_fold_le url.kind
    (fun _ segment member => Path.split_drive_of_visible (allVisible.2 segment member)) Path.root
  have none : Path.root.directory.length = 0 := rfl
  have kept := kept_count_le rest
  rw [List.foldl_cons, push_empty_of_root start, List.length_cons] at whole
  omega

/-- A drive with a bar is written with a colon, and says so. -/
theorem no_bar_of_keeps (read : ReadPath url) (isFile : url.kind = .file)
    (stem : url.path.stem = [])
    (noDots : ∀ segment ∈ segments, segment ≠ "." ∧ segment ≠ "..")
    (allVisible : ∀ segment ∈ segments, ∀ character ∈ segment.toList, isDropped character = false)
    (keeps : (segments.foldl (pushSegment url.kind) url.path.dropTrailing).map decode =
      url.path.stem.map decode ++ segments.map fun segment => utf8 segment.toList)
    {letter : Char} (isLetter : Text.isAsciiLetter letter = true) :
    segments.head? ≠ some (String.ofList [letter, '|']) := by
  intro isDrive
  obtain ⟨rest, rfl⟩ := List.head?_eq_some_iff.mp isDrive
  have start := start_of_stem read stem
  have written : Path.written url.kind url.kind.segmentReserved []
      (String.ofList [letter, '|']).toList = [letter, ':'] := by
    rw [Path.written, if_pos ⟨isFile, rfl⟩, String.toList_ofList]
    simp [Path.driveLetter?, isLetter]
  have pushed := fold_of_root start noDots allVisible (by rw [written]; simp)
  rw [pushed, stem, written, List.map_cons, List.map_cons, decode_drive isLetter,
    String.toList_ofList] at keeps
  injection keeps with same
  have marks := utf8_injective same
  simp at marks

theorem carries_of_keeps (read : ReadPath url) (some : segments ≠ []) (keeps : Keeps url segments) :
    Carries url segments := by
  have allVisible := all_visible_of_keeps read keeps
  rw [keeps_eq_fold read] at keeps
  by_cases isRoot : segments.foldl (pushSegment url.kind) url.path.dropTrailing = Path.root
  · rw [isRoot] at keeps
    exact carries_of_root keeps some
  · have counted := congrArg List.length keeps
    rw [List.length_append, List.length_map, List.length_map, List.length_map] at counted
    have whole : (segments.foldl (pushSegment url.kind) url.path.dropTrailing).directory =
        segments.foldl (pushSegment url.kind) url.path.dropTrailing := if_neg isRoot
    have bounded := length_fold_le url.kind
      (fun _ segment member => Path.split_drive_of_visible (allVisible segment member))
      url.path.dropTrailing
    obtain ⟨atMost, fewer⟩ := start_length_le read
    have kept := kept_count_le segments
    rw [whole] at bounded
    have noDots := no_dots_of_kept_count (by omega : keptCount segments = segments.length)
    refine ⟨?_, noDots, allVisible, ?_, ?_⟩
    · intro twice
      have less := fewer twice
      omega
    · intro stem isEmpty
      refine absurd isEmpty (first_of_length read stem allVisible ?_)
      rw [whole]
      omega
    · intro isFile stem letter isLetter
      exact no_bar_of_keeps read isFile stem noDots allVisible keeps isLetter

theorem keeps_iff_carries (read : ReadPath url) (some : segments ≠ []) :
    Keeps url segments ↔ Carries url segments :=
  ⟨carries_of_keeps read some, keeps_of_carries read some⟩

end Kept

end SearchKit.Url
