import Mathlib
import Calculator.Files.Tree

/-!
# The nearest file

A file of a given name is looked for in a directory and in those above it, from below. The directory
where it is found is the lowest of those that hold such a file (`FileTree.findUp?_eq_some_iff`), and
if none of them does, nothing is found (`FileTree.findUp?_eq_none_iff`). This is so wherever the
paths can be followed. The first path is the longest and goes through all the names, so that the
search is refused there (`FileTree.findUp_of_refused`) or nowhere (`FileTree.findUp_of_admits`).
-/

set_option autoImplicit false

namespace Calculator

/-- The ancestors of a location are its beginnings. -/
theorem mem_ancestors_iff {above l : Location} : above ∈ ancestors l ↔ above <+: l := by
  simp only [ancestors, List.mem_map, List.mem_reverse, List.mem_range]
  constructor
  · rintro ⟨n, -, rfl⟩
    exact List.take_prefix n l
  · intro h
    exact ⟨above.length, Nat.lt_succ_of_le h.length_le, (List.prefix_iff_eq_take.mp h).symm⟩

/-! ## The lowest directory -/

namespace FileTree

/-- The nearest file of a given name in a directory or above it, if all paths can be followed. -/
def findUp? (t : FileTree) (name : String) (directory : Location) : Option Location :=
  ((ancestors directory).map (· ++ [name])).find? t.isFile

/-- Of a directory and those above it, this is the lowest one that holds a file of the name. -/
structure IsNearest (t : FileTree) (name : String) (directory above : Location) : Prop where
  isAbove : above <+: directory
  holds : t.isFile (above ++ [name]) = true
  isLowest : ∀ other, other <+: directory → t.isFile (other ++ [name]) = true → other <+: above

variable {t : FileTree} {name : String} {directory above found : Location}

/-- There is only one lowest directory. -/
theorem IsNearest.unique {other : Location} (h : t.IsNearest name directory above)
    (hother : t.IsNearest name directory other) : above = other :=
  (hother.isLowest above h.isAbove h.holds).eq_of_length_le
    (h.isLowest other hother.isAbove hother.holds).length_le

theorem findUp?_eq_none_iff :
    t.findUp? name directory = none ↔
      ∀ above, above <+: directory → t.isFile (above ++ [name]) = false := by
  rw [findUp?, List.find?_eq_none]
  simp only [List.forall_mem_map, mem_ancestors_iff, Bool.not_eq_true]

/-- The directory itself comes first, and then those above its parent. -/
theorem findUp?_concat (part : String) :
    t.findUp? name (directory ++ [part]) =
      if t.isFile (directory ++ [part] ++ [name]) then some (directory ++ [part] ++ [name])
      else t.findUp? name directory := by
  rw [findUp?, ancestors_append_singleton, List.map_cons, List.find?_cons]
  split
  · next h => rw [if_pos h]
  · next h => rw [if_neg (Bool.eq_false_iff.mp h), findUp?]

/-- What is found is found in the lowest directory that holds such a file. -/
theorem exists_isNearest (h : t.findUp? name directory = some found) :
    ∃ above, t.IsNearest name directory above ∧ found = above ++ [name] := by
  induction directory using List.reverseRecOn with
  | nil =>
      have hroot : [[name]].find? t.isFile = some found := h
      have hfile := List.find?_some hroot
      obtain rfl := List.mem_singleton.mp (List.mem_of_find?_eq_some hroot)
      exact ⟨[], ⟨List.nil_prefix, hfile, fun other hother _ => hother⟩, rfl⟩
  | append_singleton directory part ih =>
      rw [findUp?_concat] at h
      split at h
      · next hholds =>
          cases h
          exact ⟨_, ⟨List.prefix_rfl, hholds, fun other hother _ => hother⟩, rfl⟩
      · next hlacks =>
          obtain ⟨above, hnearest, rfl⟩ := ih h
          refine ⟨above, ⟨hnearest.isAbove.trans (List.prefix_append _ _), hnearest.holds, ?_⟩, rfl⟩
          intro other hother hfile
          rcases List.prefix_concat_iff.mp hother with rfl | hother
          · exact absurd hfile hlacks
          · exact hnearest.isLowest other hother hfile

/-- A file is found exactly in the lowest directory that holds one. -/
theorem findUp?_eq_some_iff :
    t.findUp? name directory = some found ↔
      ∃ above, t.IsNearest name directory above ∧ found = above ++ [name] := by
  constructor
  · exact exists_isNearest
  · rintro ⟨above, hnearest, rfl⟩
    cases hfound : t.findUp? name directory with
    | none =>
        have hlacks := findUp?_eq_none_iff.mp hfound above hnearest.isAbove
        rw [hnearest.holds] at hlacks
        cases hlacks
    | some other =>
        obtain ⟨above', hnearest', rfl⟩ := exists_isNearest hfound
        rw [hnearest.unique hnearest']

/-- Only the files of that name in the directory and above it matter. -/
theorem findUp?_congr {other : FileTree} (h : ∀ above, above <+: directory →
      t.isFile (above ++ [name]) = other.isFile (above ++ [name])) :
    t.findUp? name directory = other.findUp? name directory := by
  have hall : ∀ l ∈ (ancestors directory).map (· ++ [name]), t.isFile l = other.isFile l := by
    intro l hl
    obtain ⟨above, habove, rfl⟩ := List.mem_map.mp hl
    exact h above (mem_ancestors_iff.mp habove)
  rw [findUp?, findUp?, ← List.head?_filter, ← List.head?_filter, List.filter_congr hall]

end FileTree

/-! ## Paths that cannot be followed -/

/-- Each part of a location is written behind a slash. -/
theorem Location.utf8ByteSize_toString {l : Location} (h : l ≠ []) :
    l.toString.utf8ByteSize = (l.map fun part => part.utf8ByteSize + 1).sum := by
  have hslash : "/".utf8ByteSize = 1 := by decide
  rw [Location.toString, String.utf8ByteSize_append, hslash]
  induction l with
  | nil => exact absurd rfl h
  | cons part rest ih =>
      cases rest with
      | nil => simp [String.intercalate_singleton, Nat.add_comm]
      | cons next rest =>
          have hrest := ih (by simp)
          rw [String.intercalate_cons_cons, String.utf8ByteSize_append,
            String.utf8ByteSize_append, hslash, List.map_cons, List.sum_cons, ← hrest]
          omega

/-- Below a directory other than the root, a path grows by a slash and a name. -/
theorem Location.utf8ByteSize_toString_concat {l : Location} (h : l ≠ []) (part : String) :
    (Location.toString (l ++ [part])).utf8ByteSize =
      l.toString.utf8ByteSize + (part.utf8ByteSize + 1) := by
  rw [utf8ByteSize_toString (by simp), utf8ByteSize_toString h, List.map_append, List.sum_append,
    List.map_singleton, List.sum_singleton]

/-- A file has a shorter path one directory further up. -/
theorem Location.utf8ByteSize_toString_le (l : Location) (part name : String) :
    (Location.toString (l ++ [name])).utf8ByteSize ≤
      (Location.toString (l ++ [part] ++ [name])).utf8ByteSize := by
  rw [utf8ByteSize_toString (by simp), utf8ByteSize_toString (by simp)]
  simp only [List.map_append, List.sum_append]
  omega

namespace FileTree

variable {t : FileTree} {name : String} {directory : Location}

/-- Parts are followed one after another, and refused at the first of them that cannot be. -/
theorem refusalAlong_append (l : Location) (parts rest : List String) :
    t.refusalAlong l (parts ++ rest) =
      (t.refusalAlong l parts).or ((t.follow l parts).bind fun m => t.refusalAlong m rest) := by
  induction parts generalizing l with
  | nil => rfl
  | cons part parts ih =>
      rw [List.cons_append, refusalAlong, refusalAlong, follow, isDirectory]
      cases t.lookup? l with
      | none => rfl
      | some entry =>
          cases entry with
          | file content => rfl
          | directory isSearchable =>
              cases isSearchable with
              | false => rfl
              | true =>
                  simp only [if_true]
                  split
                  · rfl
                  · exact ih (Path.advance l part)

theorem refusal?_toPath_eq_none_iff (l : Location) :
    t.refusal? [] l.toPath = none ↔
      l.toString.utf8ByteSize ≤ longestPath ∧ t.refusalAlong [] l = none := by
  have hsteps : steps l.toPath = l := by
    simp [steps, Location.toPath, Path.isAbsolute]
  rw [refusal?, hsteps, ← Nat.not_lt]
  have hstring : l.toPath.toString = l.toString := rfl
  rw [hstring]
  split
  · next h => exact iff_of_false (by simp) fun hnone => hnone.1 h
  · next h => exact ⟨fun hnone => ⟨h, hnone⟩, fun hnone => hnone.2⟩

/-- Where one part can be looked for, so can any with a name that is not too long. -/
theorem refusalAlong_singleton (hname : name.utf8ByteSize ≤ longestName) {l : Location}
    {part : String} {rest : List String} (h : t.refusalAlong l (part :: rest) = none) :
    t.refusalAlong l [name] = none := by
  rw [refusalAlong] at h ⊢
  split at h
  · cases h
  · next hentry =>
      rw [if_neg (Nat.not_lt.mpr hname)]
      rfl
  · rfl

/-- If a path can be followed, so can the path of a file of that name further up. -/
theorem admits_parent (hname : name.utf8ByteSize ≤ longestName) {part : String}
    (h : t.refusal? [] (Location.toPath (directory ++ [part] ++ [name])) = none) :
    t.refusal? [] (Location.toPath (directory ++ [name])) = none := by
  obtain ⟨hpath, hparts⟩ := (refusal?_toPath_eq_none_iff _).mp h
  rw [List.append_assoc, refusalAlong_append, Option.or_eq_none_iff] at hparts
  obtain ⟨hdirectory, hbelow⟩ := hparts
  refine (refusal?_toPath_eq_none_iff _).mpr
    ⟨Nat.le_trans (Location.utf8ByteSize_toString_le directory part name) hpath, ?_⟩
  rw [refusalAlong_append, hdirectory, Option.none_or]
  cases hfollow : t.follow [] directory with
  | none => rfl
  | some m =>
      rw [hfollow] at hbelow
      exact refusalAlong_singleton hname hbelow

/-! ## Trees that are open -/

/-- A tree all of whose directories may be searched. -/
def IsOpen (t : FileTree) : Prop := ∀ l, t.lookup? l ≠ some (.directory false)

theorem isOpen_empty : empty.IsOpen := by
  intro l hl
  unfold lookup? at hl
  split at hl
  · cases hl
  · cases hl

theorem lookup_directories (directories : List Location) (l : Location) :
    (directories.map fun directory => (directory, FileEntry.directory true)).lookup l =
      if l ∈ directories then some (.directory true) else none := by
  induction directories with
  | nil => rfl
  | cons directory rest ih =>
      rw [List.map_cons, List.lookup_cons, ih]
      by_cases h : l = directory
      · simp [h]
      · rw [beq_eq_false_iff_ne.mpr h]
        simp [h]

/-- What is there stays, and the directories down to the new one may be searched. -/
theorem lookup?_addDirectory (t : FileTree) (l m : Location) :
    (t.addDirectory l).lookup? m =
      (t.lookup? m).or (if m <+: l then some (.directory true) else none) := by
  unfold lookup? addDirectory
  split
  · rfl
  · rw [List.lookup_append, lookup_directories]
    simp only [mem_ancestors_iff]

theorem IsOpen.addDirectory (h : t.IsOpen) (l : Location) : (t.addDirectory l).IsOpen := by
  intro m hm
  rw [lookup?_addDirectory] at hm
  cases hentry : t.lookup? m with
  | some entry =>
      rw [hentry] at hm
      exact h m (hentry.trans hm)
  | none =>
      rw [hentry, Option.none_or] at hm
      split at hm
      · cases hm
      · cases hm

theorem IsOpen.addFile (h : t.IsOpen) (l : Location) (content : Option ByteArray) :
    (t.addFile l content).IsOpen := by
  refine IsOpen.addDirectory ?_ l.dropLast
  intro m hm
  unfold lookup? at hm
  split at hm
  · next hroot =>
      refine h m ?_
      rw [lookup?, if_pos hroot]
      exact hm
  · next hroot =>
      rw [List.lookup_cons] at hm
      split at hm
      · cases hm
      · refine h m ?_
        rw [lookup?, if_neg hroot]
        exact hm

/-- In an open tree, parts with names that are not too long can be followed. -/
theorem refusalAlong_of_isOpen (ht : t.IsOpen) {parts : List String}
    (h : ∀ part ∈ parts, part.utf8ByteSize ≤ longestName) (l : Location) :
    t.refusalAlong l parts = none := by
  induction parts generalizing l with
  | nil => rfl
  | cons part rest ih =>
      obtain ⟨hpart, hrest⟩ := List.forall_mem_cons.mp h
      rw [refusalAlong]
      split
      · next hentry => exact absurd hentry (ht l)
      · rw [if_neg (Nat.not_lt.mpr hpart)]
        exact ih hrest (Path.advance l part)
      · rfl

theorem isDirectory_addDirectory_empty (directory : Location) :
    (empty.addDirectory directory).isDirectory directory = true := by
  rw [isDirectory, lookup?_addDirectory, if_pos List.prefix_rfl]
  cases directory <;> rfl

theorem isFile_addDirectory_empty (directory l : Location) :
    (empty.addDirectory directory).isFile l = false := by
  rw [isFile, file?, lookup?_addDirectory]
  cases l with
  | nil => rfl
  | cons part rest =>
      have hnone : empty.lookup? (part :: rest) = none := rfl
      rw [hnone, Option.none_or]
      by_cases habove : part :: rest <+: directory
      · rw [if_pos habove]
        rfl
      · rw [if_neg habove]
        rfl

/-! ## The search -/

theorem findFile_cons_of_refused {l : Location} {cause : Refusal}
    (h : t.refusal? [] l.toPath = some cause) (rest : List Location) :
    t.findFile (l :: rest) = .error (cause, l) := by
  rw [findFile, checkFile, h]
  rfl

theorem findFile_cons_of_admits {l : Location} (h : t.refusal? [] l.toPath = none)
    (rest : List Location) :
    t.findFile (l :: rest) = if t.isFile l then .ok (some l) else t.findFile rest := by
  rw [findFile, checkFile, h]
  rfl

theorem findUp_concat (part : String) :
    t.findUp name (directory ++ [part]) =
      t.findFile ((directory ++ [part] ++ [name]) ::
        (ancestors directory).map (· ++ [name])) := by
  rw [findUp, ancestors_append_singleton, List.map_cons]

/-- Where the first path can be followed, the search is the one without refusals. -/
theorem findUp_of_admits (hname : name.utf8ByteSize ≤ longestName)
    (h : t.refusal? [] (Location.toPath (directory ++ [name])) = none) :
    t.findUp name directory = .ok (t.findUp? name directory) := by
  induction directory using List.reverseRecOn with
  | nil =>
      have hroot : t.findUp name [] = if t.isFile [name] then .ok (some [name]) else .ok none :=
        findFile_cons_of_admits h []
      have hfound : t.findUp? name [] = [[name]].find? t.isFile := rfl
      rw [hroot, hfound, List.find?_cons]
      cases t.isFile [name] <;> rfl
  | append_singleton directory part ih =>
      rw [findUp_concat, findFile_cons_of_admits h, findUp?_concat]
      split
      · rfl
      -- the paths further up are shorter and go through fewer names
      · exact ih (admits_parent hname h)

/-- The search ends at the first path, if that cannot be followed. -/
theorem findUp_of_refused {cause : Refusal}
    (h : t.refusal? [] (Location.toPath (directory ++ [name])) = some cause) :
    t.findUp name directory = .error (cause, directory ++ [name]) := by
  cases directory using List.reverseRecOn with
  | nil => exact findFile_cons_of_refused h []
  | append_singleton directory part =>
      rw [findUp_concat]
      exact findFile_cons_of_refused h _

end FileTree

end Calculator
