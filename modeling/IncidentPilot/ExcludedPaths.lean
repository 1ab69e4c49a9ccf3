import IncidentPilot.WorkflowGraph

/-!
# Paths that the sandbox leaves out

The copy of the source looks at each part of a path.  The pull request writes a
base file below the path with forward slashes; a path that the copy leaves out
is then written below a path that it leaves out as well.
-/

namespace IncidentPilot

/-- What `forwardSlashes` makes of a character. -/
def forwardSlash (char : Char) : Char :=
  if char = Char.ofNat 92 then '/' else char

/-- Forward slashes, character by character. -/
theorem toList_forwardSlashes
    (path : String) :
    (forwardSlashes path).toList = path.toList.map forwardSlash := by
  simp only [forwardSlashes, String.toList_ofList]
  rfl

/-- No backslash is left. -/
theorem backslash_notMem_map
    (chars : List Char) :
    Char.ofNat 92 ∉ chars.map forwardSlash := by
  intro member
  obtain ⟨char, -, same⟩ := List.mem_map.mp member
  unfold forwardSlash at same
  split at same
  · exact absurd same (by decide)
  · rename_i other
    exact other same

/-- Characters without a backslash stay as they are. -/
theorem map_forwardSlash_of_notMem
    {chars : List Char}
    (absent : Char.ofNat 92 ∉ chars) :
    chars.map forwardSlash = chars := by
  have same : ∀ char ∈ chars, forwardSlash char = id char := by
    intro char member
    refine if_neg fun backslash => ?_
    subst backslash
    exact absent member
  rw [List.map_congr_left same, List.map_id]

/-- A path without a backslash stays as it is. -/
theorem forwardSlashes_of_notMem
    {path : String}
    (absent : Char.ofNat 92 ∉ path.toList) :
    forwardSlashes path = path := by
  refine String.toList_inj.mp ?_
  rw [toList_forwardSlashes, map_forwardSlash_of_notMem absent]

/-- Forward slashes are forward slashes. -/
theorem forwardSlashes_forwardSlashes
    (path : String) :
    forwardSlashes (forwardSlashes path) = forwardSlashes path := by
  refine forwardSlashes_of_notMem ?_
  rw [toList_forwardSlashes]
  exact backslash_notMem_map path.toList

/-- The characters of a part are characters of the text. -/
theorem mem_of_mem_splitOn
    {separator char : Char}
    {chars part : List Char}
    (isPart : part ∈ chars.splitOn separator)
    (member : char ∈ part) :
    char ∈ chars := by
  induction chars generalizing part with
  | nil =>
      simp only [List.splitOn_nil, List.mem_singleton] at isPart
      subst isPart
      cases member
  | cons first rest inductionHypothesis =>
      rw [List.splitOn_cons_eq_if_modifyHead] at isPart
      split at isPart
      · rcases List.mem_cons.mp isPart with rfl | inRest
        · cases member
        · exact List.mem_cons_of_mem _ (inductionHypothesis inRest member)
      · cases parts : rest.splitOn separator with
        | nil =>
            rw [parts] at isPart
            cases isPart
        | cons head tail =>
            rw [parts, List.modifyHead_cons] at isPart
            rcases List.mem_cons.mp isPart with rfl | inTail
            · rcases List.mem_cons.mp member with rfl | inHead
              · exact List.mem_cons_self
              · refine List.mem_cons_of_mem _
                  (inductionHypothesis ?_ inHead)
                rw [parts]
                exact List.mem_cons_self
            · refine List.mem_cons_of_mem _
                (inductionHypothesis ?_ member)
              rw [parts]
              exact List.mem_cons_of_mem _ inTail

/-- The parts with forward slashes are the parts of the parts. -/
theorem splitOn_map_forwardSlash
    (chars : List Char) :
    (chars.map forwardSlash).splitOn '/' =
      (chars.splitOn '/').flatMap fun part =>
        (part.map forwardSlash).splitOn '/' := by
  induction chars with
  | nil =>
      simp
  | cons first rest inductionHypothesis =>
      by_cases separator : first = '/'
      · subst separator
        simp [List.splitOn_cons_eq_if_modifyHead, inductionHypothesis,
          show forwardSlash '/' = '/' by decide]
      · cases parts : rest.splitOn '/' with
        | nil =>
            exact absurd parts (List.splitOn_ne_nil _ _)
        | cons head tail =>
            cases inner : (head.map forwardSlash).splitOn '/' with
            | nil =>
                exact absurd inner (List.splitOn_ne_nil _ _)
            | cons piece pieces =>
                rw [parts] at inductionHypothesis
                simp only [List.flatMap_cons, inner]
                  at inductionHypothesis
                simp only [List.map_cons,
                  List.splitOn_cons_eq_if_modifyHead,
                  inductionHypothesis, parts, beq_iff_eq, separator,
                  if_false, List.modifyHead_cons, List.flatMap_cons,
                  inner]
                split <;> simp

/-- A part of a part with forward slashes is a part of the whole. -/
theorem mem_splitOn_map_forwardSlash
    {chars part piece : List Char}
    (isPart : part ∈ chars.splitOn '/')
    (isPiece : piece ∈ (part.map forwardSlash).splitOn '/') :
    piece ∈ (chars.map forwardSlash).splitOn '/' := by
  rw [splitOn_map_forwardSlash]
  exact List.mem_flatMap.mpr ⟨part, isPart, isPiece⟩

/-- A text ends in its last part. -/
theorem suffix_of_splitOn
    {chars pattern : List Char}
    (ends : pattern <:+ chars)
    (plain : '/' ∉ pattern) :
    ∃ part ∈ chars.splitOn '/', pattern <:+ part := by
  induction chars with
  | nil =>
      exact ⟨[], by simp, ends⟩
  | cons first rest inductionHypothesis =>
      rw [List.splitOn_cons_eq_if_modifyHead]
      rcases List.suffix_cons_iff.mp ends with whole | inRest
      · subst whole
        have apart : first ≠ '/' := by
          rintro rfl
          exact plain List.mem_cons_self
        have restPlain : '/' ∉ rest := fun member =>
          plain (List.mem_cons_of_mem _ member)
        rw [List.splitOn_eq_singleton restPlain]
        simp [apart]
      · obtain ⟨part, isPart, partEnds⟩ := inductionHypothesis inRest
        split
        · exact ⟨part, List.mem_cons_of_mem _ isPart, partEnds⟩
        · cases parts : rest.splitOn '/' with
          | nil =>
              exact absurd parts (List.splitOn_ne_nil _ _)
          | cons head tail =>
              rw [parts] at isPart
              rcases List.mem_cons.mp isPart with rfl | inTail
              · exact
                  ⟨first :: part, List.mem_cons_self,
                    partEnds.trans (List.suffix_cons first part)⟩
              · exact
                  ⟨part, List.mem_cons_of_mem _ inTail, partEnds⟩

/--
`str.lower` works on characters in their words, and a slash ends a word: no
part of a path is lowered differently because of another part.
-/
def PatchTools.LowersParts (tools : PatchTools) : Prop :=
  ∀ left right,
    tools.lower (left ++ "/" ++ right) =
      tools.lower left ++ "/" ++ tools.lower right

/-- The parts of a text in lower case. -/
def loweredParts (tools : PatchTools) (chars : List Char) : List String :=
  splitText '/' (tools.lower (String.ofList chars))

/-- What lower case makes of a text comes from one of its parts. -/
theorem mem_loweredParts
    {tools : PatchTools}
    (lowers : tools.LowersParts)
    {chars : List Char}
    {word : String}
    (member : word ∈ loweredParts tools chars) :
    ∃ part ∈ chars.splitOn '/', word ∈ loweredParts tools part := by
  by_cases slash : '/' ∈ chars
  · obtain ⟨left, right, same, absent⟩ :=
      List.eq_append_cons_of_mem slash
    have shorter : right.length < chars.length := by
      rw [same, List.length_append, List.length_cons]
      omega
    have whole :
        String.ofList chars =
          String.ofList left ++ "/" ++ String.ofList right := by
      refine String.toList_inj.mp ?_
      simp [same, String.toList_append]
    rw [loweredParts, whole, lowers] at member
    have split :
        splitText '/'
            (tools.lower (String.ofList left) ++ "/" ++
              tools.lower (String.ofList right)) =
          loweredParts tools left ++ loweredParts tools right := by
      simp [splitText, loweredParts, String.toList_append,
        List.splitOn_append_cons_self]
    rw [split] at member
    have parts : chars.splitOn '/' = left :: right.splitOn '/' := by
      rw [same, List.splitOn_append_cons_self_of_not_mem absent]
    rw [parts]
    rcases List.mem_append.mp member with inLeft | inRight
    · exact ⟨left, List.mem_cons_self, inLeft⟩
    · obtain ⟨part, isPart, inPart⟩ := mem_loweredParts lowers inRight
      exact ⟨part, List.mem_cons_of_mem _ isPart, inPart⟩
  · refine ⟨chars, ?_, member⟩
    rw [List.splitOn_eq_singleton slash]
    exact List.mem_singleton_self chars
termination_by chars.length

/-- A path that the copy of the source leaves out. -/
def excludedPath (tools : PatchTools) (path : String) : Bool :=
  (splitText '/' path).any (excludedName tools)

/-- What the copy of the source holds. -/
theorem sandboxCopy_read
    (tools : PatchTools)
    (files : Files)
    (path : String) :
    (sandboxCopy tools files).read path =
      if excludedPath tools path = true then none
      else files.read path := by
  induction files with
  | nil =>
      simp [sandboxCopy, Files.read]
  | cons file rest inductionHypothesis =>
      obtain ⟨name, content⟩ := file
      simp only [sandboxCopy, Files.read, List.filter_cons]
        at inductionHypothesis ⊢
      by_cases named : path = name
      · subst named
        by_cases excluded : excludedPath tools path = true
        · have left :
              (splitText '/' path).any (excludedName tools) = true :=
            excluded
          simp only [left, Bool.not_true, Bool.false_eq_true, if_false,
            inductionHypothesis, excluded, if_true]
        · have kept :
              (splitText '/' path).any (excludedName tools) = false :=
            Bool.not_eq_true _ ▸ excluded
          simp [kept, excluded]
      · have other : (path == name) = false := beq_false_of_ne named
        split
        · simp only [List.lookup_cons, other, inductionHypothesis]
        · simp only [List.lookup_cons, other, inductionHypothesis]

/-- A name that is left out has a part that is left out. -/
theorem excludedName_piece
    {tools : PatchTools}
    (lowers : tools.LowersParts)
    {part : List Char}
    (excluded : excludedName tools (String.ofList part) = true) :
    ∃ piece ∈ (part.map forwardSlash).splitOn '/',
      excludedName tools (String.ofList piece) = true := by
  simp only [excludedName, Bool.or_eq_true] at excluded
  have suffixed
      (pattern : String)
      (ends : endsWith (String.ofList part) pattern = true)
      (plain : '/' ∉ pattern.toList)
      (same : pattern.toList.map forwardSlash = pattern.toList) :
      ∃ piece ∈ (part.map forwardSlash).splitOn '/',
        endsWith (String.ofList piece) pattern = true := by
    simp only [endsWith, String.toList_ofList,
      List.isSuffixOf_iff_suffix] at ends ⊢
    have mapped := ends.map forwardSlash
    rw [same] at mapped
    exact suffix_of_splitOn mapped plain
  rcases excluded with ((sensitive | named) | database) | log
  · -- the offending word comes from one part of the name
    rw [sensitivePath, List.any_eq_true] at sensitive
    obtain ⟨word, member, offends⟩ := sensitive
    have whole :
        forwardSlashes (String.ofList part) =
          String.ofList (part.map forwardSlash) := by
      refine String.toList_inj.mp ?_
      rw [toList_forwardSlashes, String.toList_ofList,
        String.toList_ofList]
    rw [whole] at member
    obtain ⟨piece, isPiece, inPiece⟩ := mem_loweredParts lowers member
    refine ⟨piece, isPiece, ?_⟩
    have plain : Char.ofNat 92 ∉ piece := fun backslash =>
      backslash_notMem_map part (mem_of_mem_splitOn isPiece backslash)
    have same :
        forwardSlashes (String.ofList piece) = String.ofList piece :=
      forwardSlashes_of_notMem (by rwa [String.toList_ofList])
    have still : sensitivePath tools (String.ofList piece) = true := by
      rw [sensitivePath, same, List.any_eq_true]
      exact ⟨word, inPiece, offends⟩
    simp [excludedName, still]
  · -- these names have neither slashes nor backslashes
    have known :
        part = "__pycache__".toList ∨ part = "var".toList ∨
          part = ".pytest_cache".toList := by
      simp only [List.contains_cons, List.contains_nil, Bool.or_false,
        Bool.or_eq_true, beq_iff_eq] at named
      rcases named with same | same | same
      · exact .inl (by rw [← same, String.toList_ofList])
      · exact .inr (.inl (by rw [← same, String.toList_ofList]))
      · exact .inr (.inr (by rw [← same, String.toList_ofList]))
    refine ⟨part, ?_, ?_⟩
    · rcases known with rfl | rfl | rfl <;> decide
    · simp only [excludedName, named, Bool.or_true, Bool.true_or]
  · obtain ⟨piece, isPiece, ends⟩ :=
      suffixed ".db" database (by decide) (by decide)
    exact ⟨piece, isPiece, by simp [excludedName, ends]⟩
  · obtain ⟨piece, isPiece, ends⟩ :=
      suffixed ".log" log (by decide) (by decide)
    exact ⟨piece, isPiece, by simp [excludedName, ends]⟩

/-- A path that is left out is left out with forward slashes as well. -/
theorem excludedPath_forwardSlashes
    {tools : PatchTools}
    (lowers : tools.LowersParts)
    {path : String}
    (excluded : excludedPath tools path = true) :
    excludedPath tools (forwardSlashes path) = true := by
  obtain ⟨name, member, excluded⟩ := List.any_eq_true.mp excluded
  obtain ⟨part, isPart, rfl⟩ := List.mem_map.mp member
  obtain ⟨piece, isPiece, stillExcluded⟩ :=
    excludedName_piece lowers excluded
  refine List.any_eq_true.mpr ⟨String.ofList piece, ?_, stillExcluded⟩
  refine List.mem_map.mpr ⟨piece, ?_, rfl⟩
  rw [toList_forwardSlashes]
  exact mem_splitOn_map_forwardSlash isPart isPiece

end IncidentPilot
