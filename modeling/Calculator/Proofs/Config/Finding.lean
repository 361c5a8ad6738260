import Mathlib
import Calculator.Config.Finder
import Calculator.Proofs.Files.Nearest

/-!
# Finding a configuration from a start

A search begins in the working directory, or where a written path leads from there. `Walks` takes
the components of such a path one by one, and `SearchBegins` is where they lead. From that place the
search finds the file in the nearest directory, or nothing (`Searches`), and no file but those on
the way up matters (`findConfig_searches`). It fails in two cases: a null character stands in the
path, or the path of a file at the beginning is not followed, because it is too long or goes through
a directory that may not be searched. Nothing need be there (`findConfig_fails_far_down`).
-/

set_option autoImplicit false

namespace Calculator

/-! ## Written paths -/

/-- Where the components of a path lead from a directory, whether or not there is anything. An empty
component and a single point stay there, and a double point leads to the directory above; above the
root there is the root again. -/
inductive Walks : Location → List String → Location → Prop
  | here (l : Location) : Walks l [] l
  | stay {l m : Location} {part : String} {rest : List String} :
      part = "" ∨ part = "." → Walks l rest m → Walks l (part :: rest) m
  | up {l m : Location} {rest : List String} :
      Walks l.dropLast rest m → Walks l (".." :: rest) m
  | down {l m : Location} {part : String} {rest : List String} :
      part ≠ "" → part ≠ "." → part ≠ ".." → Walks (l ++ [part]) rest m → Walks l (part :: rest) m

/-- The components of a written path. -/
def components (text : String) : List String := (text.toList.splitOn '/').map String.ofList

/-- Where a search begins. A path that begins with a slash leads from the root. -/
inductive SearchBegins (directory : Location) : Option String → Location → Prop
  | absent : SearchBegins directory none directory
  | relative {text : String} {l : Location} :
      text.toList.head? ≠ some '/' → Walks directory (components text) l →
      SearchBegins directory (some text) l
  | absolute {text : String} {l : Location} :
      text.toList.head? = some '/' → Walks [] (components text) l →
      SearchBegins directory (some text) l

/-- A component that leads somewhere. -/
def isStep (part : String) : Bool := part ≠ "" && part ≠ "."

theorem isStep_iff {part : String} : isStep part = true ↔ part ≠ "" ∧ part ≠ "." := by
  simp [isStep]

/-- The components that lead somewhere are followed one after the other. -/
theorem walks_iff {l m : Location} {parts : List String} :
    Walks l parts m ↔ (parts.filter isStep).foldl Path.advance l = m := by
  constructor
  · intro h
    induction h with
    | here l => rfl
    | stay hpart _ ih =>
        rcases hpart with rfl | rfl
        · exact ih
        · exact ih
    | up _ ih => exact ih
    | down hempty hpoint hpoints _ ih =>
        rw [List.filter_cons_of_pos (isStep_iff.mpr ⟨hempty, hpoint⟩), List.foldl_cons,
          Path.advance, if_neg hpoints]
        exact ih
  · rintro rfl
    induction parts generalizing l with
    | nil => exact .here l
    | cons part rest ih =>
        by_cases hstep : isStep part = true
        · obtain ⟨hempty, hpoint⟩ := isStep_iff.mp hstep
          rw [List.filter_cons_of_pos hstep, List.foldl_cons, Path.advance]
          split
          · next hpoints =>
              rw [hpoints]
              exact .up ih
          · next hpoints => exact .down hempty hpoint hpoints ih
        · rw [List.filter_cons_of_neg hstep]
          refine .stay ?_ ih
          by_contra hnone
          exact hstep (isStep_iff.mpr (not_or.mp hnone))

theorem splitWhere_eq_splitOnP (p : Char → Bool) (text : List Char) :
    splitWhere p text = text.splitOnP p := by
  induction text with
  | nil => rfl
  | cons c rest ih =>
      obtain ⟨piece, pieces, hrest⟩ := List.exists_cons_of_ne_nil (List.splitOnP_ne_nil p rest)
      rw [List.splitOnP_cons_eq_if_modifyHead, splitWhere, ih, hrest]
      rfl

theorem parts_ofString (text : String) :
    (Path.ofString text).parts = (components text).filter isStep := by
  have hslash : (fun c : Char => decide (c = '/')) = (· == '/') := by
    funext c
    exact (beq_eq_decide c '/').symm
  rw [Path.ofString, components, List.splitOn, splitWhere_eq_splitOnP, hslash]
  rfl

theorem rootOf_ne_empty_iff (text : List Char) :
    Path.rootOf text ≠ "" ↔ text.head? = some '/' := by
  cases text with
  | nil => simp [Path.rootOf]
  | cons c rest =>
      rw [List.head?_cons, Option.some_inj]
      unfold Path.rootOf
      split
      · next heq => simp [(List.cons.inj heq).1]
      · next heq => simp [(List.cons.inj heq).1]
      · next heq => simp [(List.cons.inj heq).1]
      · next hslash => exact iff_of_false (by simp) fun hc => hslash rest (by rw [hc])

theorem isAbsolute_ofString (text : String) :
    (Path.ofString text).isAbsolute = true ↔ text.toList.head? = some '/' := by
  rw [Path.isAbsolute, decide_eq_true_iff]
  exact rootOf_ne_empty_iff text.toList

/-- A search begins at one place. -/
theorem searchBegins_iff {directory l : Location} {start : Option String} :
    SearchBegins directory start l ↔
      start.elim directory (fun text => (Path.ofString text).resolve directory) = l := by
  cases start with
  | none =>
      constructor
      · rintro ⟨⟩
        rfl
      · rintro rfl
        exact .absent
  | some text =>
      rw [Option.elim_some, Path.resolve, parts_ofString]
      by_cases hroot : text.toList.head? = some '/'
      · rw [if_pos ((isAbsolute_ofString text).mpr hroot), ← walks_iff]
        constructor
        · intro h
          cases h with
          | relative hother _ => exact absurd hroot hother
          | absolute _ hwalks => exact hwalks
        · exact .absolute hroot
      · rw [if_neg (mt (isAbsolute_ofString text).mp hroot), ← walks_iff]
        constructor
        · intro h
          cases h with
          | relative _ hwalks => exact hwalks
          | absolute hother _ => exact absurd hother hroot
        · exact .relative hroot

/-! ## Null characters -/

/-- The components hold all characters of a path but its slashes. -/
theorem exists_mem_splitOnP_iff {p : Char → Bool} {c : Char} (hc : p c = false)
    (text : List Char) : (∃ piece ∈ text.splitOnP p, c ∈ piece) ↔ c ∈ text := by
  induction text with
  | nil => simp
  | cons head rest ih =>
      obtain ⟨piece, pieces, hrest⟩ := List.exists_cons_of_ne_nil (List.splitOnP_ne_nil p rest)
      rw [List.splitOnP_cons_eq_if_modifyHead, List.mem_cons, ← ih, hrest]
      split
      · next hhead =>
          have hne : c ≠ head := by
            rintro rfl
            rw [hc] at hhead
            cases hhead
          simp [hne]
      · simp [or_assoc]

/-- A component with a null character in it leads somewhere, or would do so. -/
theorem isStep_of_mem_null {piece : List Char} (h : '\x00' ∈ piece) :
    isStep (String.ofList piece) = true := by
  have hne : ∀ text : String, '\x00' ∉ text.toList → String.ofList piece ≠ text := by
    rintro text htext rfl
    rw [String.toList_ofList] at htext
    exact htext h
  exact isStep_iff.mpr ⟨hne "" (by decide), hne "." (by decide)⟩

theorem holdsNull_ofString (text : String) :
    (Path.ofString text).holdsNull = true ↔ '\x00' ∈ text.toList := by
  rw [Path.holdsNull, parts_ofString, List.any_eq_true,
    ← exists_mem_splitOnP_iff (p := (· == '/')) (by decide) text.toList]
  constructor
  · rintro ⟨part, hpart, hnull⟩
    obtain ⟨piece, hpiece, rfl⟩ := List.mem_map.mp (List.mem_of_mem_filter hpart)
    rw [String.toList_ofList] at hnull
    exact ⟨piece, hpiece, List.contains_iff_mem.mp hnull⟩
  · rintro ⟨piece, hpiece, hnull⟩
    refine ⟨String.ofList piece, List.mem_filter.mpr
      ⟨List.mem_map_of_mem hpiece, isStep_of_mem_null hnull⟩, ?_⟩
    rw [String.toList_ofList]
    exact List.contains_iff_mem.mpr hnull

/-! ## The outcome of a search -/

/-- No null character stands in the path with which a search begins. -/
def IsNullFree (start : Option String) : Prop := ∀ text, start = some text → '\x00' ∉ text.toList

/-- The path of the file that is looked for first can be followed. -/
def CanSearch (tree : FileTree) (l : Location) : Prop :=
  tree.refusal? [] (Location.toPath (l ++ [configFileName])) = none

/-- What a search comes to. -/
inductive Searches (tree : FileTree) (directory : Location) (start : Option String) :
    Except SearchFault (Option Location) → Prop
  /-- The file is in the nearest directory that holds one. -/
  | nearest {l above : Location} :
      IsNullFree start → SearchBegins directory start l → CanSearch tree l →
      tree.IsNearest configFileName l above →
      Searches tree directory start (.ok (some (above ++ [configFileName])))
  /-- No directory on the way up holds a file. -/
  | nothing {l : Location} :
      IsNullFree start → SearchBegins directory start l → CanSearch tree l →
      (∀ above, above <+: l → tree.isFile (above ++ [configFileName]) = false) →
      Searches tree directory start (.ok none)
  /-- The system refuses to follow the path of a file at the beginning. -/
  | refused {l : Location} {cause : Refusal} :
      IsNullFree start → SearchBegins directory start l →
      tree.refusal? [] (Location.toPath (l ++ [configFileName])) = some cause →
      Searches tree directory start
        (.error (.refused cause (Location.toString (l ++ [configFileName]))))
  /-- A null character stands in the path. -/
  | nullCharacter {text : String} :
      start = some text → '\x00' ∈ text.toList →
      Searches tree directory start (.error .nullCharacter)

section

variable {tree : FileTree} {directory l : Location} {start : Option String}

theorem findConfig_of_searchBegins (hnull : IsNullFree start) (h : SearchBegins directory start l) :
    findConfig tree directory (start.map Path.ofString) =
      (tree.findUp configFileName l).mapError fun (cause, m) => .refused cause m.toString := by
  obtain rfl := searchBegins_iff.mp h
  cases start with
  | none => rfl
  | some text =>
      have hfree := mt (holdsNull_ofString text).mp (hnull text rfl)
      rw [findConfig, Option.map_some, searchStart, if_neg hfree]
      rfl

theorem findConfig_of_canSearch (hnull : IsNullFree start) (h : SearchBegins directory start l)
    (hsearch : CanSearch tree l) :
    findConfig tree directory (start.map Path.ofString) =
      .ok (tree.findUp? configFileName l) := by
  rw [findConfig_of_searchBegins hnull h, FileTree.findUp_of_admits (by decide) hsearch]
  rfl

theorem findConfig_of_refused {cause : Refusal} (hnull : IsNullFree start)
    (h : SearchBegins directory start l)
    (hrefused : tree.refusal? [] (Location.toPath (l ++ [configFileName])) = some cause) :
    findConfig tree directory (start.map Path.ofString) =
      .error (.refused cause (Location.toString (l ++ [configFileName]))) := by
  rw [findConfig_of_searchBegins hnull h, FileTree.findUp_of_refused hrefused]
  rfl

theorem findConfig_of_null {text : String} (h : '\x00' ∈ text.toList) :
    findConfig tree directory (some (Path.ofString text)) = .error .nullCharacter := by
  rw [findConfig, searchStart, if_pos ((holdsNull_ofString text).mpr h)]
  rfl

theorem exists_null_of_not_isNullFree (h : ¬ IsNullFree start) :
    ∃ text, start = some text ∧ '\x00' ∈ text.toList := by
  simpa [IsNullFree] using h

/-- A search comes to something. -/
theorem searches_findConfig (tree : FileTree) (directory : Location) (start : Option String) :
    Searches tree directory start (findConfig tree directory (start.map Path.ofString)) := by
  by_cases hnull : IsNullFree start
  · have hbegins := searchBegins_iff.mpr (Eq.refl
      (start.elim directory fun text => (Path.ofString text).resolve directory))
    cases hsearch : tree.refusal? [] (Location.toPath
        (start.elim directory (fun text => (Path.ofString text).resolve directory) ++
          [configFileName])) with
    | some cause =>
        rw [findConfig_of_refused hnull hbegins hsearch]
        exact .refused hnull hbegins hsearch
    | none =>
        rw [findConfig_of_canSearch hnull hbegins hsearch]
        cases hfound : tree.findUp? configFileName _ with
        | none =>
            exact .nothing hnull hbegins hsearch (FileTree.findUp?_eq_none_iff.mp hfound)
        | some found =>
            obtain ⟨above, hnearest, rfl⟩ := FileTree.findUp?_eq_some_iff.mp hfound
            exact .nearest hnull hbegins hsearch hnearest
  · obtain ⟨text, rfl, htext⟩ := exists_null_of_not_isNullFree hnull
    rw [Option.map_some, findConfig_of_null htext]
    exact .nullCharacter rfl htext

/-- It comes to nothing else. -/
theorem Searches.findConfig_eq {result : Except SearchFault (Option Location)}
    (h : Searches tree directory start result) :
    findConfig tree directory (start.map Path.ofString) = result := by
  cases h with
  | nearest hnull hbegins hsearch hnearest =>
      rw [findConfig_of_canSearch hnull hbegins hsearch,
        FileTree.findUp?_eq_some_iff.mpr ⟨_, hnearest, rfl⟩]
  | nothing hnull hbegins hsearch hlacks =>
      rw [findConfig_of_canSearch hnull hbegins hsearch,
        FileTree.findUp?_eq_none_iff.mpr hlacks]
  | refused hnull hbegins hsearch => exact findConfig_of_refused hnull hbegins hsearch
  | nullCharacter hstart htext =>
      rw [hstart, Option.map_some]
      exact findConfig_of_null htext

end

/-- A search comes to what is said of it, and to nothing else. Where it can be made, no file matters
but those of that name in the directories on the way up. -/
theorem findConfig_searches (tree : FileTree) (directory : Location) (start : Option String) :
    (∀ result, Searches tree directory start result ↔
      findConfig tree directory (start.map Path.ofString) = result) ∧
    ∀ (other : FileTree) (l : Location), SearchBegins directory start l →
      CanSearch tree l → CanSearch other l →
      (∀ above, above <+: l →
        tree.isFile (above ++ [configFileName]) = other.isFile (above ++ [configFileName])) →
      findConfig tree directory (start.map Path.ofString) =
        findConfig other directory (start.map Path.ofString) := by
  refine ⟨fun result => ⟨Searches.findConfig_eq, ?_⟩, fun other l hbegins hsearch hother h => ?_⟩
  · rintro rfl
    exact searches_findConfig tree directory start
  · by_cases hnull : IsNullFree start
    · rw [findConfig_of_canSearch hnull hbegins hsearch,
        findConfig_of_canSearch hnull hbegins hother, FileTree.findUp?_congr h]
    · obtain ⟨text, rfl, htext⟩ := exists_null_of_not_isNullFree hnull
      rw [Option.map_some, findConfig_of_null htext, findConfig_of_null htext]

/-- Names and paths that are not too long can be followed where all directories may be searched. -/
theorem canSearch_of_short {tree : FileTree} {l : Location} (htree : tree.IsOpen)
    (hnames : ∀ part ∈ l ++ [configFileName], part.utf8ByteSize ≤ FileTree.longestName)
    (hpath : (Location.toString (l ++ [configFileName])).utf8ByteSize ≤ FileTree.longestPath) :
    CanSearch tree l :=
  (FileTree.refusal?_toPath_eq_none_iff _).mpr
    ⟨hpath, FileTree.refusalAlong_of_isOpen htree hnames []⟩

/-- A tree with a configuration in `/a`, and a directory of its name in `/a/c`. -/
def treeWithDirectory : FileTree :=
  (FileTree.empty.addDirectory ["a", "c", configFileName]).addFile ["a", configFileName]
    (some .empty)

theorem isOpen_treeWithDirectory : treeWithDirectory.IsOpen :=
  (FileTree.isOpen_empty.addDirectory _).addFile _ _

theorem findConfig_past_directory :
    SearchBegins ["a", "b"] (some "./d//../../c/") ["a", "c"] ∧
      findConfig treeWithDirectory ["a", "b"] (some (Path.ofString "./d//../../c/")) =
        .ok (some ["a", configFileName]) ∧
      findConfig (treeWithDirectory.addFile ["a", "b", configFileName] (some .empty)) ["a", "b"]
          (some (Path.ofString "./d//../../c/")) =
        .ok (some ["a", configFileName]) := by
  have hbegins : SearchBegins ["a", "b"] (some "./d//../../c/") ["a", "c"] :=
    searchBegins_iff.mpr (by decide +kernel)
  have hshort : ∀ tree : FileTree, tree.IsOpen → CanSearch tree ["a", "c"] :=
    fun tree htree => canSearch_of_short htree (by decide) (by decide +kernel)
  have hopen := isOpen_treeWithDirectory
  have hnull : IsNullFree (some "./d//../../c/") := by
    rintro text ⟨⟩
    decide
  have hnearest : treeWithDirectory.IsNearest configFileName ["a", "c"] ["a"] := by
    refine ⟨by decide, by decide +kernel, fun other hother => ?_⟩
    have hall : ∀ other ∈ ancestors ["a", "c"],
        treeWithDirectory.isFile (other ++ [configFileName]) = true → other <+: ["a"] := by
      decide +kernel
    exact hall other (mem_ancestors_iff.mpr hother)
  have hfound := ((findConfig_searches treeWithDirectory ["a", "b"] (some "./d//../../c/")).1 _).mp
    (.nearest hnull hbegins (hshort _ hopen) hnearest)
  have hall : ∀ above ∈ ancestors ["a", "c"],
      treeWithDirectory.isFile (above ++ [configFileName]) =
        (treeWithDirectory.addFile ["a", "b", configFileName] (some .empty)).isFile
          (above ++ [configFileName]) := by
    decide +kernel
  have hsame := (findConfig_searches treeWithDirectory ["a", "b"] (some "./d//../../c/")).2
    (treeWithDirectory.addFile ["a", "b", configFileName] (some .empty)) ["a", "c"] hbegins
    (hshort _ hopen) (hshort _ (hopen.addFile _ _))
    fun above habove => hall above (mem_ancestors_iff.mpr habove)
  exact ⟨hbegins, hfound, hsame.symm.trans hfound⟩

/-! ## A search that fails -/

/-- A name of some length. -/
def nameOfLength (n : Nat) : String := String.ofList (List.replicate n 'd')

theorem utf8ByteSize_nameOfLength (n : Nat) : (nameOfLength n).utf8ByteSize = n := by
  rw [nameOfLength, String.utf8ByteSize_ofList]
  induction n with
  | zero => rfl
  | succ n ih =>
      have hletter : 'd'.utf8Size = 1 := by decide
      rw [List.replicate_succ, String.utf8Len_cons, ih, hletter]

/-- A directory whose path is as long as a path can be. -/
def farDown : Location := List.replicate 15 (nameOfLength 255) ++ [nameOfLength 254]

theorem farDown_ne_nil : farDown ≠ [] := List.concat_ne_nil _ _

theorem utf8ByteSize_farDown : (Location.toString farDown).utf8ByteSize = FileTree.longestPath := by
  rw [Location.utf8ByteSize_toString farDown_ne_nil, farDown,
    List.map_append, List.map_replicate, List.sum_append, List.sum_replicate, List.map_singleton,
    List.sum_singleton, utf8ByteSize_nameOfLength, utf8ByteSize_nameOfLength]
  rfl

theorem refusal?_farDown (tree : FileTree) :
    tree.refusal? [] (Location.toPath (farDown ++ [configFileName])) = some .tooLong := by
  have hlonger : FileTree.longestPath <
      (Location.toString (farDown ++ [configFileName])).utf8ByteSize := by
    rw [Location.utf8ByteSize_toString_concat farDown_ne_nil, utf8ByteSize_farDown]
    omega
  exact if_pos hlonger

/-- The search in a directory that is there fails if the path of a file in it would be too long,
although there is no file anywhere. -/
theorem findConfig_fails_far_down :
    (FileTree.empty.addDirectory farDown).isDirectory farDown = true ∧
      (∀ l, (FileTree.empty.addDirectory farDown).isFile l = false) ∧
      findConfig (FileTree.empty.addDirectory farDown) farDown none ≠ .ok none := by
  refine ⟨FileTree.isDirectory_addDirectory_empty farDown,
    FileTree.isFile_addDirectory_empty farDown, ?_⟩
  have hnull : IsNullFree none := by
    rintro text ⟨⟩
  have hfails := findConfig_of_refused hnull .absent
    (refusal?_farDown (FileTree.empty.addDirectory farDown))
  intro hnone
  cases hfails.symm.trans hnone

end Calculator
