import SearchKit.Proofs.Url.LostSegments

/-!
Whether added segments stay behind the path that they are added to. Plain dots are left out, but
characters that vanish can hide the dots for the directory above, and then the segment before them
is taken away. Of the path that was there already, that can be the last segment and no other.
-/

namespace SearchKit.Url

set_option autoImplicit false

/-- The path of the URL is the other one's and then at most so many parts. -/
def IsBelow (url above : Url) (room : Nat) : Prop :=
  ∃ added, url.path.parts = above.path.stem ++ added ∧ added.length ≤ room

/-- Dots for the directory above, hidden by characters that vanish. -/
def Climbs (segment : String) : Prop := segment ≠ ".." ∧ visible segment.toList = ['.', '.']

instance : DecidablePred Climbs := fun _ => inferInstanceAs (Decidable (_ ∧ _))

/-- Whoever leaves this directory upwards finds it again: its last segment is empty or a drive. -/
def Path.HoldsLast (directory : Path) : Prop :=
  ∀ last, directory.getLast? = some last → last = [] ∨ isDrive last = true

/-- A URL below which all segments stay, whatever they are. -/
structure IsAnchored (url : Url) : Prop where
  not_twice : url.path ≠ [[], []]
  not_file_root : url.kind = .file → url.path.stem ≠ []
  last_held : url.path.stem.HoldsLast

structure Holds (url : Url) (segments : List String) : Prop where
  not_twice : url.path ≠ [[], []]
  /-- In the root of a file's path a drive and a name may stand in one segment. -/
  unsplit : url.kind = .file → url.path.stem = [] →
    ∀ segment ∈ segments, Path.splitDrive? segment.toList = none
  unclimbed : url.path.stem.HoldsLast ∨ ∀ segment ∈ segments, ¬Climbs segment

namespace Path

variable {kind : SchemeKind} {reserved : Char → Bool} {stem path : Path}

/-! ## One segment -/

theorem stands_behind (stands : Stands kind stem) (kept : stem <+: path) : Stands kind path := by
  obtain ⟨added, rfl⟩ := kept
  refine ⟨?_, ?_, ?_⟩
  · exact List.append_ne_nil_of_left_ne_nil stands.some_segment added
  · intro isRoot
    rcases List.append_eq_singleton_iff.mp isRoot with ⟨none, -⟩ | ⟨isRoot, -⟩
    · exact stands.some_segment none
    · exact stands.not_root isRoot
  · intro isFile
    rw [List.head?_append_of_ne_nil _ stands.some_segment]
    exact stands.starts isFile

theorem prefix_above (kept : stem <+: path) (held : stem.HoldsLast) :
    stem <+: above path ++ [[]] := by
  rw [above]
  split
  · exact kept.trans (List.prefix_append path [[]])
  · rename_i noDrive
    obtain ⟨added, rfl⟩ := kept
    rcases List.eq_nil_or_concat' added with rfl | ⟨front, last, rfl⟩
    · rw [List.append_nil] at noDrive ⊢
      rcases List.eq_nil_or_concat' stem with rfl | ⟨front, last, rfl⟩
      · exact List.nil_prefix
      · rcases held last List.getLast?_concat with rfl | isDrive
        · exact ⟨[], by rw [List.append_nil, List.dropLast_concat]⟩
        · rw [List.getLast?_concat] at noDrive
          exact absurd isDrive noDrive
    · rw [← List.append_assoc, List.dropLast_concat, List.append_assoc]
      exact List.prefix_append stem (front ++ [[]])

theorem prefix_close {step : Step} (kept : stem <+: path) (held : step = .above → stem.HoldsLast) :
    stem <+: close path step := by
  cases step with
  | above => exact prefix_above kept (held rfl)
  | here | drive _ | driveAndName _ _ | name _ => exact kept.trans (List.prefix_append path _)

/-- Of what is written, only dots lead upwards. -/
theorem visible_of_above {text : List Char} (percent : reserved '%' = true)
    (above : Step.ofSegment (encode reserved (visible text)) = .above) :
    visible text = ['.', '.'] := by
  by_contra noDots
  rw [Step.ofSegment, not_is_above_encode percent noDots] at above
  split at above
  · contradiction
  · split at above <;> contradiction

theorem push_eq_close_of_stands (stands : Stands kind path) {text : List Char} :
    path.push kind reserved text =
      settle kind (close path (.ofSegment (encode reserved (visible text)))) := by
  have notEmpty : ¬(kind = .file ∧ path = []) := fun root => stands.some_segment root.2
  rw [push, directory_of_stands stands, Step.ofText, if_neg notEmpty]

theorem prefix_push (percent : reserved '%' = true) (stands : Stands kind stem)
    (kept : stem <+: path) {text : List Char} (held : visible text = ['.', '.'] → stem.HoldsLast) :
    stem <+: path.push kind reserved text := by
  have closed : stem <+: close path (.ofSegment (encode reserved (visible text))) :=
    prefix_close kept fun above => held (visible_of_above percent above)
  have next := stands_behind stands closed
  rw [push_eq_close_of_stands (stands_behind stands kept),
    settle_of_start next.some_segment next.starts]
  exact closed

end Path

/-! ## All segments -/

section Segments

variable {kind : SchemeKind} {segments : List String}

theorem prefix_push_segment {stem path : Path} (stands : Path.Stands kind stem)
    (kept : stem <+: path) {segment : String} (held : stem.HoldsLast ∨ ¬Climbs segment) :
    stem <+: pushSegment kind path segment := by
  rw [pushSegment]
  split
  · exact kept
  · rename_i noDots
    apply Path.prefix_push (segment_reserved_marks kind).1 stands kept
    intro dots
    apply held.resolve_right
    intro noneClimbs
    exact noneClimbs ⟨fun same => noDots (.inr same), dots⟩

theorem length_push_of_stands {path : Path} (stands : Path.Stands kind path) (segment : String)
    (next : Path.Stands kind (pushSegment kind path segment)) :
    (pushSegment kind path segment).length ≤ path.length + 1 := by
  have isDirectory := Path.directory_of_stands stands
  have counted : (pushSegment kind path segment).directory.length ≤ path.directory.length + 1 := by
    apply length_push_le
    intro _ none
    rw [isDirectory] at none
    exact absurd none stands.some_segment
  rwa [isDirectory, Path.directory_of_stands next] at counted

theorem fold_stays {stem path : Path} (stands : Path.Stands kind stem) (kept : stem <+: path)
    (held : stem.HoldsLast ∨ ∀ segment ∈ segments, ¬Climbs segment) :
    stem <+: segments.foldl (pushSegment kind) path ∧
      (segments.foldl (pushSegment kind) path).length ≤ path.length + segments.length := by
  induction segments generalizing path with
  | nil => exact ⟨kept, Nat.le_refl _⟩
  | cons segment rest ih =>
      rw [List.forall_mem_cons] at held
      have next := prefix_push_segment stands kept (held.imp_right And.left)
      have longer := length_push_of_stands (Path.stands_behind stands kept) segment
        (Path.stands_behind stands next)
      obtain ⟨stays, further⟩ := ih next (held.imp_right And.right)
      rw [List.foldl_cons, List.length_cons]
      exact ⟨stays, by omega⟩

end Segments

theorem length_le_directory (path : Path) : path.length ≤ max 1 path.directory.length := by
  rw [Path.directory]
  split
  · rename_i isRoot
    rw [isRoot]
    decide
  · exact Nat.le_max_right 1 path.length

section Below

variable {url : Url} {segments : List String}

/-- In the root there is nothing to leave, so that only the number of segments matters. -/
theorem length_of_root (read : ReadPath url) (stem : url.path.stem = []) (some : segments ≠ [])
    (unsplit : url.kind = .file → ∀ segment ∈ segments, Path.splitDrive? segment.toList = none) :
    (url.withSegments segments).path.length ≤ segments.length := by
  have start := start_of_stem read stem
  have several := List.length_pos_iff.mpr some
  have counted := length_fold_le url.kind unsplit url.path.dropTrailing
  have kept := kept_count_le segments
  have bounded := length_le_directory (url.withSegments segments).path
  rw [start, List.length_nil] at counted
  rw [withSegments] at bounded ⊢
  dsimp only at bounded ⊢
  omega

theorem is_below_of_holds (read : ReadPath url) (some : segments ≠ [])
    (holds : Holds url segments) :
    IsBelow (url.withSegments segments) url segments.length := by
  rw [IsBelow, parts_with_segments read]
  rcases Path.start_cases read.settled with ⟨stem, -⟩ | twice | ⟨start, stands⟩
  · refine ⟨(url.withSegments segments).path, ?_, ?_⟩
    · rw [stem, List.nil_append]
    · exact length_of_root read stem some fun isFile => holds.unsplit isFile stem
  · exact absurd twice holds.not_twice
  · obtain ⟨⟨added, joined⟩, counted⟩ := fold_stays stands (List.prefix_refl _) holds.unclimbed
    refine ⟨added, ?_, ?_⟩
    · rw [joined, withSegments, start]
    · rw [← joined, List.length_append] at counted
      omega

theorem is_below_of_anchored (read : ReadPath url) (anchored : url.IsAnchored)
    (some : segments ≠ []) : IsBelow (url.withSegments segments) url segments.length := by
  apply is_below_of_holds read some
  refine ⟨anchored.not_twice, ?_, .inl anchored.last_held⟩
  intro isFile stem
  exact absurd stem (anchored.not_file_root isFile)

/-! ## URLs that are not anchored -/

theorem with_one_segment (url : Url) (segment : String) :
    (url.withSegments [segment]).path = pushSegment url.kind url.path.dropTrailing segment :=
  rfl

/-- Two slashes are taken for the root, whose empty segment the first one replaces. -/
theorem not_twice_of_below (read : ReadPath url) (below : IsBelow (url.withSegments ["a"]) url 1) :
    url.path ≠ [[], []] := by
  intro twice
  obtain ⟨added, shown, -⟩ := below
  have pushed (kind : SchemeKind) :
      pushSegment kind (Path.dropTrailing [[], []]) "a" = [['a']] := by
    cases kind <;> decide
  rw [parts_with_segments read, with_one_segment, twice, pushed] at shown
  injection shown with same
  contradiction

theorem not_file_root_of_below (read : ReadPath url)
    (below : IsBelow (url.withSegments ["C:\tx"]) url 1) (isFile : url.kind = .file) :
    url.path.stem ≠ [] := by
  intro stem
  obtain ⟨added, shown, single⟩ := below
  have start := start_of_stem read stem
  have pushed : pushSegment .file url.path.dropTrailing "C:\tx" = [['C', ':'], ['x']] := by
    rw [pushSegment, if_neg (by decide), Path.push, start]
    decide
  rw [parts_with_segments read, with_one_segment, isFile, pushed, stem, List.nil_append] at shown
  rw [← shown] at single
  contradiction

theorem push_hidden_dots {kind : SchemeKind} {front : Path} {last : List Char}
    (stands : Path.Stands kind (front ++ [last])) (noDrive : Path.isDrive last = false) :
    pushSegment kind (front ++ [last]) ".\t." = front ++ [[]] := by
  have climbed :
      Path.Step.ofSegment (encode kind.segmentReserved (visible ".\t.".toList)) = .above := by
    cases kind <;> decide
  rw [pushSegment, if_neg (by decide), Path.push_eq_close_of_stands stands, climbed, Path.close,
    Path.above, List.getLast?_concat, Option.any_some, noDrive, if_neg Bool.false_ne_true,
    List.dropLast_concat]
  rcases eq_or_ne front [] with rfl | some
  · cases kind <;> rfl
  · apply Path.settle_of_start
    · exact List.append_ne_nil_of_left_ne_nil some _
    · intro isFile
      have starts := stands.starts isFile
      rwa [List.head?_append_of_ne_nil _ some] at starts ⊢

theorem last_held_of_below (read : ReadPath url)
    (below : IsBelow (url.withSegments [".\t."]) url 1) (notTwice : url.path ≠ [[], []]) :
    url.path.stem.HoldsLast := by
  intro last isLast
  obtain ⟨front, stem⟩ := List.getLast?_eq_some_iff.mp isLast
  obtain ⟨added, shown, -⟩ := below
  rcases Path.start_cases read.settled with ⟨none, -⟩ | twice | ⟨start, stands⟩
  · rw [none] at isLast
    contradiction
  · exact absurd twice notTwice
  · rw [stem] at stands
    cases drive : Path.isDrive last with
    | true => exact .inr rfl
    | false =>
        rw [parts_with_segments read, with_one_segment, start, stem, push_hidden_dots stands drive,
          List.append_assoc] at shown
        injection List.append_cancel_left shown with same
        exact .inl same.symm

end Below

end SearchKit.Url
