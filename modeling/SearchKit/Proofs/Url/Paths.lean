import Mathlib.Data.List.TakeDrop
import SearchKit.Proofs.Checked
import SearchKit.Proofs.Text.Cutting
import SearchKit.Proofs.Url.Encoding
import SearchKit.Url.Reader

/-!
The paths of URLs that are read from a text. No segment holds a slash, so that the text of a path is
cut back into its segments, and the path of a file does not start with an empty segment.
-/

namespace SearchKit.Url

set_option autoImplicit false

namespace Path

def parts (path : Path) : List (List Char) := (Text.splitChars '/' path.text).tail

def SlashFree (path : Path) : Prop := ∀ segment ∈ path, '/' ∉ segment

/-- Nothing is dropped from the front of the path of a file. -/
def Settled (path : Path) : Prop := path = root ∨ path.head? ≠ some []

theorem split_chars_text {path : Path} (slashFree : path.SlashFree) {segment : List Char}
    (first : '/' ∉ segment) :
    Text.splitChars '/' (segment ++ path.text) = segment :: path := by
  induction path generalizing segment with
  | nil =>
      rw [text, List.flatMap_nil, List.append_nil]
      exact Text.split_chars_whole first
  | cons next rest ih =>
      rw [SlashFree, List.forall_mem_cons] at slashFree
      have further := ih slashFree.2 slashFree.1
      have shape : text (next :: rest) = '/' :: (next ++ text rest) := rfl
      rw [shape, Text.split_chars_line first, further]

theorem parts_of_slash_free {path : Path} (slashFree : path.SlashFree) : path.parts = path := by
  have cut := split_chars_text slashFree (List.not_mem_nil : '/' ∉ [])
  rw [List.nil_append] at cut
  rw [parts, cut, List.tail_cons]

/-! ## What holds of all segments -/

def Step.Adds (holds : List Char → Prop) : Step → Prop
  | .above => True
  | .here => True
  | .drive letter => holds [letter, ':']
  | .driveAndName letter segment => holds [letter, ':'] ∧ holds segment
  | .name segment => holds segment

section Segments

variable {holds : List Char → Prop} {kind : SchemeKind} {reserved : Char → Bool}

theorem mem_above {directory : Path} {segment : List Char} (member : segment ∈ above directory) :
    segment ∈ directory := by
  rw [above] at member
  split at member
  · exact member
  · exact (List.dropLast_sublist directory).mem member

theorem all_of_enter {directory : Path} {step : Step}
    (before : ∀ segment ∈ directory, holds segment)
    (added : step.Adds holds) : ∀ segment ∈ enter directory step, holds segment := by
  cases step with
  | above => exact fun segment member => before segment (mem_above member)
  | here => exact before
  | drive letter =>
      exact List.forall_mem_append.mpr ⟨before, by simpa [Step.Adds] using added⟩
  | driveAndName letter segment =>
      exact List.forall_mem_append.mpr ⟨before, by simpa [Step.Adds] using added⟩
  | name segment =>
      exact List.forall_mem_append.mpr ⟨before, by simpa [Step.Adds] using added⟩

theorem all_of_close {directory : Path} {step : Step} (empty : holds [])
    (before : ∀ segment ∈ directory, holds segment) (added : step.Adds holds) :
    ∀ segment ∈ close directory step, holds segment := by
  cases step with
  | above =>
      rw [close, List.forall_mem_append]
      exact ⟨fun segment member => before segment (mem_above member), by simpa using empty⟩
  | here => exact List.forall_mem_append.mpr ⟨before, by simpa using empty⟩
  | drive _ | driveAndName _ _ | name _ => exact all_of_enter before added

theorem all_of_follow {texts : List (List Char)} (empty : holds [])
    (each : ∀ directory, ∀ text ∈ texts, (Step.ofText kind reserved directory text).Adds holds)
    {directory : Path} (before : ∀ segment ∈ directory, holds segment) :
    ∀ segment ∈ follow kind reserved directory texts, holds segment := by
  induction texts generalizing directory with
  | nil => exact before
  | cons text more ih =>
      have first := each directory text List.mem_cons_self
      cases more with
      | nil => exact all_of_close empty before first
      | cons second further =>
          apply ih
          · exact fun directory text member => each directory text (List.mem_cons_of_mem _ member)
          · exact all_of_enter before first

theorem mem_settle {path : Path} (empty : holds []) (before : ∀ segment ∈ path, holds segment) :
    ∀ segment ∈ settle kind path, holds segment := by
  rw [settle]
  split
  · rw [trimRoot]
    split
    · simpa [root] using empty
    · rename_i trimmed _
      intro segment member
      exact before segment ((List.dropWhile_sublist _).mem member)
  · exact before

theorem drive_letter_shape {text : List Char} {letter : Char}
    (found : driveLetter? text = some letter) :
    Text.isAsciiLetter letter = true ∧ (text = [letter, ':'] ∨ text = [letter, '|']) := by
  unfold driveLetter? at found
  split at found
  · split at found
    · rename_i isDrive
      injection found with same
      subst same
      simp only [Bool.and_eq_true, Bool.or_eq_true, beq_iff_eq] at isDrive
      obtain ⟨isLetter, rfl | rfl⟩ := isDrive
      · exact ⟨isLetter, .inl rfl⟩
      · exact ⟨isLetter, .inr rfl⟩
    · contradiction
  · contradiction

theorem split_drive_shape {text rest : List Char} {letter : Char}
    (found : splitDrive? text = some (letter, rest)) :
    Text.isAsciiLetter letter = true ∧ (∃ character ∈ text, isDropped character = true) ∧
      ∀ character ∈ rest, character ∈ text ∧ isDropped character = false := by
  unfold splitDrive? at found
  split at found
  · rename_i before after shape
    rw [List.span_eq_takeWhile_dropWhile, Prod.mk.injEq] at shape
    have whole : text = before ++ ':' :: after := by
      rw [← shape.1, ← shape.2, List.takeWhile_append_dropWhile]
    split at found
    · split at found
      · rename_i isDrive
        simp only [Bool.and_eq_true, decide_eq_true_eq] at isDrive
        simp only [Option.some.injEq, Prod.mk.injEq] at found
        obtain ⟨rfl, rfl⟩ := found
        obtain ⟨⟨isLetter, vanishes⟩, -⟩ := isDrive
        refine ⟨isLetter, ?_, ?_⟩
        · obtain ⟨first, isFirst, dropped⟩ := (Option.any_eq_true _ _).mp vanishes
          refine ⟨first, ?_, dropped⟩
          rw [whole]
          exact List.mem_append_right before (List.mem_cons_of_mem ':' (List.mem_of_head? isFirst))
        · intro character member
          have kept : character ∈ after ∧ isDropped character = false := by
            simpa [visible] using member
          refine ⟨?_, kept.2⟩
          rw [whole]
          exact List.mem_append_right before (List.mem_cons_of_mem ':' kept.1)
      · contradiction
    · contradiction
  · contradiction

theorem adds_of_text (directory : Path) {text : List Char}
    (drives : ∀ letter, Text.isAsciiLetter letter = true → holds [letter, ':'])
    (encoded : ∀ part, (∀ character ∈ part, character ∈ text ∧ isDropped character = false) →
      holds (encode reserved part)) :
    (Step.ofText kind reserved directory text).Adds holds := by
  have visibleText :
      ∀ character ∈ visible text, character ∈ text ∧ isDropped character = false := by
    intro character member
    simpa [visible] using member
  have segment : (Step.ofSegment (encode reserved (visible text))).Adds holds := by
    unfold Step.ofSegment
    split
    · trivial
    · split
      · trivial
      · exact encoded _ visibleText
  unfold Step.ofText
  split
  · unfold Step.ofRootText
    split
    · rename_i letter found
      exact drives letter (drive_letter_shape found).1
    · rename_i letter rest none found
      obtain ⟨isLetter, -, parts⟩ := split_drive_shape found
      exact ⟨drives letter isLetter, encoded rest parts⟩
    · exact segment
  · exact segment

end Segments

/-! ## Paths that are read -/

theorem mark_free_of_text {mark : Char} (isMark : mark ∈ endMarks) {kind : SchemeKind}
    {reserved : Char → Bool} (directory : Path) {text : List Char}
    (kept : reserved mark = true ∨ mark ∉ text) :
    (Step.ofText kind reserved directory text).Adds (mark ∉ ·) := by
  have noDrive : mark ≠ ':' ∧ Text.isAsciiLetter mark = false := by
    rcases end_mark_cases isMark with rfl | rfl | rfl <;> decide
  obtain ⟨noColon, noLetter⟩ := noDrive
  apply adds_of_text
  · intro letter isLetter member
    simp only [List.mem_cons, List.not_mem_nil, or_false] at member
    rcases member with rfl | colon
    · rw [isLetter] at noLetter
      contradiction
    · exact noColon colon
  · intro part inText
    apply mark_not_mem_encode isMark
    exact kept.imp_right fun absent member => absent (inText mark member).1

theorem mark_free_of_texts {mark : Char} (isMark : mark ∈ endMarks) (kind : SchemeKind)
    {texts : List (List Char)}
    (kept : ∀ text ∈ texts, pathReserved mark = true ∨ mark ∉ text) :
    ∀ segment ∈ ofTexts kind texts, mark ∉ segment := by
  have empty : (fun segment : List Char => mark ∉ segment) [] := List.not_mem_nil
  refine mem_settle empty (all_of_follow empty ?_ ?_)
  · exact fun directory text member => mark_free_of_text isMark directory (kept text member)
  · simp

theorem settled_trim_root (path : Path) : path.trimRoot.Settled := by
  unfold trimRoot
  split
  · exact .inl rfl
  · rename_i trimmed _
    right
    intro empty
    have dropped := List.head?_dropWhile_not (· == []) path
    rw [empty] at dropped
    simp at dropped

theorem settled_settle {kind : SchemeKind} (path : Path) (isFile : kind = .file) :
    (settle kind path).Settled := by
  rw [settle, if_pos isFile]
  exact settled_trim_root path

end Path

theorem slash_not_mem_split_segments (kind : SchemeKind) (text : List Char) :
    ∀ segment ∈ splitSegments kind text, '/' ∉ segment := by
  intro segment member
  rw [splitSegments, Text.split_chars_eq_split_on] at member
  exact Text.separator_not_mem_split_on '/' _ segment member

/-- The paths of URLs that are read: none, or segments that were followed from the root. -/
def ReadPath (url : Url) : Prop :=
  url.path = [] ∧ url.kind ≠ .file ∨
    ∃ texts, url.path = Path.ofTexts url.kind texts ∧ ∀ text ∈ texts, '/' ∉ text

theorem read_path_of_parts (url : Url) (text : List Char)
    (path : url.path = readPath url.kind text) : ReadPath url := by
  rw [readPath] at path
  split at path
  · rename_i none
    left
    rw [none.2]
    exact ⟨path, by decide⟩
  · exact .inr ⟨_, path, slash_not_mem_split_segments _ _⟩

theorem read_path_of_file_parts (host : Host) (text : List Char) :
    ReadPath (ofFileParts host text) :=
  .inr ⟨_, rfl, slash_not_mem_split_segments _ _⟩

theorem read_path_of_authority {scheme text : List Char} {url : Url}
    (read : ofAuthority scheme text = .ok url) : ReadPath url := by
  obtain ⟨⟨authority, after⟩, -, made⟩ := (Checked.bind_eq_ok _ _ _).mp read
  have same := (Checked.pure_eq_ok _ _).mp made
  subst same
  exact read_path_of_parts _ _ rfl

theorem read_path_of_file {text : List Char} {url : Url} (read : ofFile text = .ok url) :
    ReadPath url := by
  unfold ofFile at read
  split at read
  · injection read with same
    exact same ▸ read_path_of_file_parts _ _
  · split at read
    · injection read with same
      exact same ▸ read_path_of_file_parts _ _
    · unfold ofFileHost at read
      dsimp only at read
      split at read
      · have same := (Checked.pure_eq_ok _ _).mp read
        exact same ▸ read_path_of_file_parts _ _
      · obtain ⟨host, -, further⟩ := (Checked.bind_eq_ok _ _ _).mp read
        split at further
        · have same := (Checked.pure_eq_ok _ _).mp further
          exact same ▸ read_path_of_file_parts _ _
        · have same := (Checked.pure_eq_ok _ _).mp further
          exact same ▸ read_path_of_file_parts _ _

theorem read_path_of_other {scheme text : List Char} {url : Url}
    (other : SchemeKind.ofScheme scheme = .other) (read : ofOther scheme text = .ok (some url)) :
    ReadPath url := by
  unfold ofOther at read
  split at read
  · obtain ⟨found, isFound, same⟩ := (Checked.map_eq_ok _ _ _).mp read
    injection same with same
    exact same ▸ read_path_of_authority isFound
  · injection read with same
    injection same with same
    subst same
    exact read_path_of_parts _ _ (by rw [kind, other])
  · injection read with none
    contradiction

theorem read_path_of_text {text : String} {url : Url} (read : ofText text = .ok (some url)) :
    ReadPath url := by
  unfold ofText at read
  split at read
  · contradiction
  · split at read
    · obtain ⟨found, isFile, same⟩ := (Checked.map_eq_ok _ _ _).mp read
      injection same with same
      exact same ▸ read_path_of_file isFile
    · obtain ⟨found, isSpecial, same⟩ := (Checked.map_eq_ok _ _ _).mp read
      injection same with same
      exact same ▸ read_path_of_authority isSpecial
    · exact read_path_of_other ‹_› read

theorem ReadPath.mark_free {url : Url} (read : ReadPath url) {mark : Char}
    (isMark : mark ∈ endMarks) : ∀ segment ∈ url.path, mark ∉ segment := by
  have slashOrReserved : mark = '/' ∨ pathReserved mark = true := by
    rcases end_mark_cases isMark with rfl | rfl | rfl <;> decide
  rcases read with ⟨none, -⟩ | ⟨texts, path, apart⟩
  · rw [none]
    simp
  · rw [path]
    apply Path.mark_free_of_texts isMark
    intro text member
    rcases slashOrReserved with rfl | isReserved
    · exact .inr (apart text member)
    · exact .inl isReserved

theorem ReadPath.settled {url : Url} (read : ReadPath url) (isFile : url.kind = .file) :
    url.path.Settled := by
  rcases read with ⟨-, noFile⟩ | ⟨texts, path, -⟩
  · contradiction
  · rw [path, Path.ofTexts]
    exact Path.settled_settle _ isFile

end SearchKit.Url
