import SearchKit.Proofs.Url.Paths

/-!
Segments added to the path of a URL, and whether they are still there: cut at its slashes and
decoded, the new path is to be the old one and behind it the segments as they were given. It is
unless a segment is made of dots, holds characters that vanish from URLs, or meets the root in a
form that the root takes for something else.
-/

namespace SearchKit.Url

set_option autoImplicit false

/-- The segments that stay when others are added: all but an empty one at the end. -/
def Path.stem (path : Path) : Path := if path.getLast? = some [] then path.dropLast else path

/-- Behind the old path, the parts of the new one say the added segments and nothing else. -/
def Keeps (url : Url) (segments : List String) : Prop :=
  (url.withSegments segments).path.parts.map decode =
    url.path.stem.map decode ++ segments.map fun segment => utf8 segment.toList

/-- Segments that a URL takes as they are given. -/
structure Carries (url : Url) (segments : List String) : Prop where
  hostKept : url.path ≠ [[], []]
  noDots : ∀ segment ∈ segments, segment ≠ "." ∧ segment ≠ ".."
  allVisible : ∀ segment ∈ segments, ∀ character ∈ segment.toList, isDropped character = false
  /-- The root is written like one empty segment. -/
  firstKept : url.path.stem = [] → segments.head? = some "" → segments = [""]
  /-- In the root of a file's path a letter with a bar is a drive, which is written with a colon. -/
  noBarDrive : url.kind = .file → url.path.stem = [] → ∀ letter, Text.isAsciiLetter letter = true →
    segments.head? ≠ some (String.ofList [letter, '|'])

namespace Path

variable {kind : SchemeKind} {reserved : Char → Bool}

/-! ## One segment -/

/-- A path that the next segment is simply put behind. -/
structure Stands (kind : SchemeKind) (path : Path) : Prop where
  some_segment : path ≠ []
  not_root : path ≠ root
  starts : kind = .file → path.head? ≠ some []

theorem directory_of_stands {path : Path} (stands : Stands kind path) : path.directory = path :=
  if_neg stands.not_root

theorem settle_of_start {path : Path} (some : path ≠ [])
    (starts : kind = .file → path.head? ≠ .some []) : settle kind path = path := by
  rw [settle]
  split
  · rename_i isFile
    obtain ⟨first, rest, rfl⟩ := List.exists_cons_of_ne_nil some
    have solid : first ≠ [] := by
      rintro rfl
      exact starts isFile rfl
    have kept : (first :: rest).dropWhile (· == []) = first :: rest := by
      apply List.dropWhile_cons_of_neg
      simpa using solid
    rw [trimRoot, kept]
  · rfl

theorem length_settle_le {path : Path} : (settle kind path).directory.length ≤ path.length := by
  have bounded (path : Path) : path.directory.length ≤ path.length := by
    rw [directory]
    split
    · exact Nat.zero_le _
    · exact Nat.le_refl _
  rw [settle]
  split
  · rw [trimRoot]
    split
    · exact Nat.zero_le _
    · exact Nat.le_trans (bounded _) (List.dropWhile_sublist _).length_le
  · exact bounded path

def written (kind : SchemeKind) (reserved : Char → Bool) (directory : Path) (text : List Char) :
    List Char :=
  if kind = .file ∧ directory = [] then
    match driveLetter? text with
    | some letter => [letter, ':']
    | none => encode reserved text
  else encode reserved text

theorem visible_eq {text : List Char}
    (allVisible : ∀ character ∈ text, isDropped character = false) :
    visible text = text := by
  rw [visible, List.filter_eq_self]
  intro character member
  rw [allVisible character member]
  rfl

theorem split_drive_of_visible {text : List Char}
    (allVisible : ∀ character ∈ text, isDropped character = false) : splitDrive? text = none := by
  rw [Option.eq_none_iff_forall_ne_some]
  rintro ⟨letter, rest⟩ found
  obtain ⟨-, ⟨character, inText, dropped⟩, -⟩ := split_drive_shape found
  rw [allVisible character inText] at dropped
  contradiction

section Visible

variable {text : List Char} (percent : reserved '%' = true)
  (allVisible : ∀ character ∈ text, isDropped character = false)
  (noDots : text ≠ ['.'] ∧ text ≠ ['.', '.'])

include percent noDots in
theorem step_of_segment : Step.ofSegment (encode reserved text) = .name (encode reserved text) := by
  rw [Step.ofSegment, not_is_above_encode percent noDots.2, not_is_here_encode percent noDots.1]
  rfl

include percent allVisible noDots in
theorem push_visible (kind : SchemeKind) (path : Path) :
    path.push kind reserved text =
      settle kind (path.directory ++ [written kind reserved path.directory text]) := by
  have segment := step_of_segment percent noDots
  rw [push, Step.ofText, visible_eq allVisible, written]
  split
  · rw [Step.ofRootText, visible_eq allVisible]
    split
    · rename_i letter found
      rw [found]
      rfl
    · rename_i letter rest none found
      rw [split_drive_of_visible allVisible] at found
      contradiction
    · rename_i none _
      rw [none, segment]
      rfl
  · rw [segment]
    rfl

include percent allVisible noDots in
theorem push_of_stands {path : Path} (stands : Stands kind path) :
    path.push kind reserved text = path ++ [encode reserved text] ∧
      Stands kind (path ++ [encode reserved text]) := by
  obtain ⟨first, rest, rfl⟩ := List.exists_cons_of_ne_nil stands.some_segment
  have next : Stands kind ((first :: rest) ++ [encode reserved text]) :=
    ⟨by simp, by simp [root], stands.starts⟩
  refine ⟨?_, next⟩
  rw [push_visible percent allVisible noDots kind, directory_of_stands stands, written,
    if_neg (by simp), settle_of_start next.some_segment next.starts]

end Visible

/-- Where the adding of segments starts: in the root, from `//`, or behind the old path. -/
theorem start_cases {path : Path} (settled : kind = .file → path.Settled) :
    (path.stem = [] ∧ path.dropTrailing.directory = []) ∨ path = [[], []] ∨
      (path.dropTrailing = path.stem ∧ Stands kind path.stem) := by
  by_cases trailing : path.getLast? = some []
  · obtain ⟨before, rfl⟩ := List.getLast?_eq_some_iff.mp trailing
    have stem : Path.stem (before ++ [[]]) = before := by
      rw [Path.stem, if_pos trailing, List.dropLast_concat]
    have start : dropTrailing (before ++ [[]]) =
        if (before ++ [[]]).length ≤ 1 then before ++ [[]] else before := by
      rw [dropTrailing, trailing, List.dropLast_concat]
    rw [stem, start]
    rcases eq_or_ne before [] with rfl | some
    · exact .inl ⟨rfl, rfl⟩
    · have several : ¬(before ++ [[]]).length ≤ 1 := by
        have counted := List.length_pos_iff.mpr some
        rw [List.length_append, List.length_singleton]
        omega
      rw [if_neg several]
      rcases eq_or_ne before root with rfl | notRoot
      · exact .inr (.inl rfl)
      · refine .inr (.inr ⟨rfl, some, notRoot, ?_⟩)
        intro isFile
        rcases settled isFile with isRoot | starts
        · rw [isRoot] at several
          contradiction
        · rwa [List.head?_append_of_ne_nil _ some] at starts
  · have stem : path.stem = path := if_neg trailing
    have start : path.dropTrailing = path := by
      rw [dropTrailing]
      split
      · contradiction
      · rfl
    rw [stem, start]
    rcases eq_or_ne path [] with rfl | some
    · exact .inl ⟨rfl, rfl⟩
    · have notRoot : path ≠ root := by
        rintro rfl
        exact trailing rfl
      refine .inr (.inr ⟨rfl, some, notRoot, ?_⟩)
      intro isFile
      exact (settled isFile).resolve_left notRoot

end Path

/-! ## All segments -/

theorem segment_reserved_marks (kind : SchemeKind) :
    kind.segmentReserved '%' = true ∧ ∀ mark ∈ endMarks, kind.segmentReserved mark = true := by
  refine ⟨by cases kind <;> decide, ?_⟩
  intro mark isMark
  rcases end_mark_cases isMark with rfl | rfl | rfl <;> cases kind <;> decide

section Segments

variable {kind : SchemeKind} {segments : List String}

theorem push_segment_visible {segment : String} (noDots : segment ≠ "." ∧ segment ≠ "..")
    (path : Path) :
    pushSegment kind path segment = path.push kind kind.segmentReserved segment.toList :=
  if_neg (not_or.mpr noDots)

theorem chars_no_dots {segment : String} (noDots : segment ≠ "." ∧ segment ≠ "..") :
    segment.toList ≠ ['.'] ∧ segment.toList ≠ ['.', '.'] := by
  constructor
  · intro same
    exact noDots.1 (String.toList_injective same)
  · intro same
    exact noDots.2 (String.toList_injective same)

theorem fold_of_stands
    (noDots : ∀ segment ∈ segments, segment ≠ "." ∧ segment ≠ "..")
    (allVisible : ∀ segment ∈ segments, ∀ character ∈ segment.toList, isDropped character = false)
    {path : Path} (stands : Path.Stands kind path) :
    segments.foldl (pushSegment kind) path =
      path ++ segments.map fun segment => encode kind.segmentReserved segment.toList := by
  induction segments generalizing path with
  | nil => simp
  | cons segment rest ih =>
      rw [List.forall_mem_cons] at noDots allVisible
      obtain ⟨pushed, next⟩ := Path.push_of_stands (segment_reserved_marks kind).1 allVisible.1
        (chars_no_dots noDots.1) stands
      rw [List.foldl_cons, push_segment_visible noDots.1, pushed, ih noDots.2 allVisible.2 next,
        List.map_cons, List.append_assoc, List.singleton_append]

/-- In the root, the first segment takes the place of the empty one that stands for the root. -/
theorem fold_of_root {path : Path} (start : path.directory = []) {first : String}
    {rest : List String} (noDots : ∀ segment ∈ first :: rest, segment ≠ "." ∧ segment ≠ "..")
    (allVisible : ∀ segment ∈ first :: rest, ∀ character ∈ segment.toList,
      isDropped character = false)
    (some : Path.written kind kind.segmentReserved [] first.toList ≠ []) :
    (first :: rest).foldl (pushSegment kind) path =
      Path.written kind kind.segmentReserved [] first.toList ::
        rest.map fun segment => encode kind.segmentReserved segment.toList := by
  rw [List.forall_mem_cons] at noDots allVisible
  have pushed := Path.push_visible (segment_reserved_marks kind).1 allVisible.1
    (chars_no_dots noDots.1) kind path
  have stands : Path.Stands kind [Path.written kind kind.segmentReserved [] first.toList] := by
    refine ⟨by simp, ?_, ?_⟩
    · intro isRoot
      injection isRoot with none
      exact some none
    · intro _ isEmpty
      injection isEmpty with none
      exact some none
  rw [start, List.nil_append, Path.settle_of_start stands.some_segment stands.starts] at pushed
  rw [List.foldl_cons, push_segment_visible noDots.1, pushed,
    fold_of_stands noDots.2 allVisible.2 stands, List.singleton_append]

theorem push_empty_of_root {path : Path} (start : path.directory = []) :
    pushSegment kind path "" = Path.root := by
  have pushed := Path.push_visible (segment_reserved_marks kind).1
    (by simp : ∀ character ∈ [], isDropped character = false) (by simp) kind path
  rw [push_segment_visible (by decide), String.toList_empty, pushed, start]
  cases kind <;> rfl

theorem decode_encoded (kind : SchemeKind) (segments : List String) :
    (segments.map fun segment => encode kind.segmentReserved segment.toList).map decode =
      segments.map fun segment => utf8 segment.toList := by
  rw [List.map_map]
  apply List.map_congr_left
  intro segment _
  exact decode_encode _ (segment_reserved_marks kind).1 _

theorem mark_free_of_fold {mark : Char} (isMark : mark ∈ endMarks) (kind : SchemeKind) {path : Path}
    (free : ∀ part ∈ path, mark ∉ part) (segments : List String) :
    ∀ part ∈ segments.foldl (pushSegment kind) path, mark ∉ part := by
  induction segments generalizing path with
  | nil => exact free
  | cons segment rest ih =>
      rw [List.foldl_cons]
      apply ih
      rw [pushSegment]
      split
      · exact free
      · have empty : (fun part : List Char => mark ∉ part) [] := List.not_mem_nil
        refine Path.mem_settle empty (Path.all_of_close empty ?_ ?_)
        · intro part member
          rw [Path.directory] at member
          split at member
          · contradiction
          · exact free part member
        · exact Path.mark_free_of_text isMark _ (.inl ((segment_reserved_marks kind).2 mark isMark))

end Segments

/-! ## Segments that are carried -/

theorem decode_drive {letter : Char} (isLetter : Text.isAsciiLetter letter = true) :
    decode [letter, ':'] = utf8 [letter, ':'] := by
  apply decode_plain
  intro member
  simp only [List.mem_cons, List.not_mem_nil, or_false] at member
  rcases member with rfl | colon
  · exact absurd isLetter (by decide)
  · exact absurd colon (by decide)

/-- In the root, everything but a drive with a bar is written as what it is. -/
theorem Path.decode_written (kind : SchemeKind) {reserved : Char → Bool}
    (percent : reserved '%' = true) {text : List Char}
    (noBar : kind = .file → ∀ letter, Text.isAsciiLetter letter = true → text ≠ [letter, '|']) :
    decode (written kind reserved [] text) = utf8 text := by
  rw [written]
  split
  · rename_i root
    split
    · rename_i letter found
      obtain ⟨isLetter, rfl | rfl⟩ := drive_letter_shape found
      · exact decode_drive isLetter
      · exact absurd rfl (noBar root.1 letter isLetter)
    · exact decode_encode reserved percent text
  · exact decode_encode reserved percent text

theorem drop_trailing_sublist (path : Path) : path.dropTrailing.Sublist path := by
  rw [Path.dropTrailing]
  split
  · split
    · exact List.Sublist.refl path
    · exact List.dropLast_sublist path
  · exact List.Sublist.refl path

theorem mark_free_with_segments {url : Url} (read : ReadPath url) (segments : List String)
    {mark : Char} (isMark : mark ∈ endMarks) :
    ∀ part ∈ (url.withSegments segments).path, mark ∉ part := by
  apply mark_free_of_fold isMark
  exact fun part member => read.mark_free isMark part ((drop_trailing_sublist url.path).mem member)

theorem parts_with_segments {url : Url} (read : ReadPath url) (segments : List String) :
    (url.withSegments segments).path.parts = (url.withSegments segments).path :=
  Path.parts_of_slash_free (mark_free_with_segments read segments (by decide))

theorem keeps_eq_fold {url : Url} (read : ReadPath url) (segments : List String) :
    Keeps url segments ↔
      (segments.foldl (pushSegment url.kind) url.path.dropTrailing).map decode =
        url.path.stem.map decode ++ segments.map fun segment => utf8 segment.toList := by
  rw [Keeps, parts_with_segments read, withSegments]

theorem keeps_of_carries {url : Url} (read : ReadPath url) {segments : List String}
    (some : segments ≠ []) (carries : Carries url segments) : Keeps url segments := by
  have percent := (segment_reserved_marks url.kind).1
  rw [keeps_eq_fold read]
  rcases Path.start_cases read.settled with ⟨stem, start⟩ | twice | ⟨start, stands⟩
  · obtain ⟨first, rest, rfl⟩ := List.exists_cons_of_ne_nil some
    have noBar : url.kind = .file → ∀ letter, Text.isAsciiLetter letter = true →
        first.toList ≠ [letter, '|'] := by
      intro isFile letter isLetter same
      apply carries.noBarDrive isFile stem letter isLetter
      rw [← same, String.ofList_toList]
      rfl
    have decoded := Path.decode_written url.kind percent noBar
    rw [stem, List.map_nil, List.nil_append]
    rcases eq_or_ne first "" with rfl | solid
    · obtain rfl : rest = [] := by simpa using carries.firstKept stem rfl
      rw [List.foldl_cons, List.foldl_nil, push_empty_of_root start]
      rfl
    · have written : Path.written url.kind url.kind.segmentReserved [] first.toList ≠ [] := by
        intro none
        rw [none] at decoded
        exact solid (String.toList_injective (utf8_injective decoded.symm))
      rw [fold_of_root start carries.noDots carries.allVisible written, List.map_cons, decoded,
        decode_encoded, List.map_cons]
  · exact absurd twice carries.hostKept
  · rw [start, fold_of_stands carries.noDots carries.allVisible stands, List.map_append,
      decode_encoded]

end SearchKit.Url
