import TreeLint.Path.FileTree

/-!
# Paths that stand in files

Different paths can lead to one file. If a path stands in that file, what it means does not depend
on the path by which the file was found: it is followed from the directory of the file.

**Results.**
* `Path.FileTree.follow?_beside`: a path in a file is followed from the directory of the file.
* `Path.FileTree.follow?_beside_congr`: the same path in a file leads to one place, by
  whatever path the file was found.
-/

namespace TreeLint
namespace Path

open Text

/-! ## The folder of a path -/

/-- What stands in a path in front of the name at its end. -/
def folder (cs : List Char) : List Char :=
  dropEndWhile (· != separator) cs

theorem exists_name (cs : List Char) :
    ∃ name, cs = folder cs ++ name ∧ separator ∉ name := by
  refine ⟨(cs.reverse.takeWhile (· != separator)).reverse, ?_, ?_⟩
  · rw [folder, dropEndWhile, ← List.reverse_append, List.takeWhile_append_dropWhile,
      List.reverse_reverse]
  · intro h
    have hall := List.all_eq_true.mp List.all_takeWhile separator (List.mem_reverse.mp h)
    simp at hall

theorem folder_eq_nil_or (cs : List Char) :
    folder cs = [] ∨ ∃ before, folder cs = before ++ [separator] := by
  rw [folder, dropEndWhile]
  cases h : cs.reverse.dropWhile (· != separator) with
  | nil => exact .inl rfl
  | cons c rest =>
      have hc := List.head_dropWhile_not (· != separator) (l := cs.reverse) (by simp [h])
      simp only [h, List.head_cons, bne_eq_false_iff_eq] at hc
      exact .inr ⟨rest.reverse, by rw [hc, List.reverse_cons]⟩

/-- Whatever stands in a folder, the path starts with the pieces of the folder. -/
theorem exists_pieces_folder (cs : List Char) :
    ∃ pieces, ∀ text, splitOn separator (folder cs ++ text) = pieces ++ splitOn separator text := by
  rcases folder_eq_nil_or cs with h | ⟨before, h⟩
  · exact ⟨[], fun text => by rw [h]; rfl⟩
  · refine ⟨splitOn separator before, fun text => ?_⟩
    simp [h, List.append_assoc, splitOn_append_cons]

/-! ## Components by pieces -/

/-- The component at the start of a path. -/
def firstOf (piece : List Char) : Component :=
  if piece = [] then .root else if piece = ['.'] then .current else .ofPiece piece

theorem firstOf_of_not_isIdle {piece : List Char} (h : isIdle piece = false) :
    firstOf piece = .ofPiece piece := by
  simp only [isIdle, Bool.or_eq_false_iff, decide_eq_false_iff_not] at h
  rw [firstOf, if_neg h.1, if_neg h.2]

theorem components_of_splitOn {path : String} {piece : List Char} {more : List (List Char)}
    (h : splitOn separator path.toList = piece :: more) (hne : piece ≠ [] ∨ more ≠ []) :
    components path = firstOf piece :: activePieces more := by
  rw [components, h]
  split
  · next heq => cases heq
  · next heq =>
      cases heq
      simp at hne
  · next heq =>
      cases heq
      rfl
  · next heq =>
      cases heq
      rfl
  · next hnot hroot hcurrent =>
      have hidle : isIdle piece = false := by
        simp only [isIdle, Bool.or_eq_false_iff, decide_eq_false_iff_not]
        exact ⟨fun he => hroot more (he ▸ rfl), fun he => hcurrent more (he ▸ rfl)⟩
      rw [firstOf_of_not_isIdle hidle]
      simp [activePieces, hidle]

@[simp] theorem activePieces_append (ps qs : List (List Char)) :
    activePieces (ps ++ qs) = activePieces ps ++ activePieces qs := by
  simp [activePieces]

namespace FileTree

variable {t : FileTree} {names : List String}

theorem follow?_eq (t : FileTree) (path : String) :
    t.follow? path =
      if path.isEmpty then none
      else ((components path).foldlM t.step? t.current).bind fun names =>
        if asksForDirectory path && !t.isDirectory names then none else some names := by
  rw [follow?]
  split
  · rfl
  · rfl

@[simp] theorem isDirectory_current (t : FileTree) : t.isDirectory t.current = true := by
  simp [isDirectory]

theorem isDirectory_dropLast (h : t.isDirectory names = true) :
    t.isDirectory names.dropLast = true := by
  simp only [isDirectory, Bool.or_eq_true, List.any_eq_true, Bool.and_eq_true, bne_iff_ne,
    List.isPrefixOf_iff_prefix] at h ⊢
  rcases h with h | ⟨f, hmem, hprefix, hne⟩
  · exact .inl ((List.dropLast_prefix names).trans h)
  · refine .inr ⟨f, hmem, (List.dropLast_prefix names).trans hprefix, ?_⟩
    -- a file at the end of all names but the last one would have no directory below it
    intro he
    have hlength := hprefix.length_le
    rw [← he, List.length_dropLast] at hlength
    have hnil : names = [] := List.eq_nil_of_length_eq_zero (by omega)
    exact hne (by rw [← he, hnil]; rfl)

/-- No file of a tree is a directory too. -/
def IsProper (t : FileTree) : Prop :=
  ∀ f ∈ t.files, t.isDirectory f.1 = false

instance (t : FileTree) : Decidable t.IsProper :=
  inferInstanceAs (Decidable (∀ f ∈ t.files, t.isDirectory f.1 = false))

theorem IsProper.isDirectory_eq_false {text : String} (h : t.IsProper)
    (htext : t.text? names = some text) : t.isDirectory names = false := by
  obtain ⟨before, after, hfiles, -⟩ := List.lookup_eq_some_iff.mp htext
  exact h (names, text) (by simp [hfiles])

theorem isDirectory_of_step? {c : Component} {reached : List String}
    (h : t.step? names c = some reached) : t.isDirectory names = true := by
  unfold step? at h
  split at h
  · assumption
  · cases h

/-- Follows a path from a directory. -/
def followFrom (t : FileTree) (directory : List String) (path : String) : Option (List String) :=
  ((activePieces (splitOn separator path.toList)).foldlM t.step? directory).bind fun names =>
    if (splitOn separator path.toList).getLast?.any isIdle && !t.isDirectory names then none
    else some names

theorem toList_beside {file entry : String} (h : isAbsolute entry = false) :
    (beside file entry).toList = folder file.toList ++ entry.toList := by
  rw [beside, if_neg (by simp [h]), String.toList_append, String.toList_ofList, folder]

/-- What is known of a path that leads to a place which is no directory. -/
theorem follow?_file {file : String} (h : t.follow? file = some names)
    (hfile : t.isDirectory names = false) :
    file.toList ≠ [] ∧ (components file).foldlM t.step? t.current = some names ∧
      asksForDirectory file = false := by
  rw [follow?_eq] at h
  split at h
  · cases h
  · next hne =>
      obtain ⟨reached, hfold, hlast⟩ := Option.bind_eq_some_iff.mp h
      split at hlast
      · cases hlast
      · next hasks =>
          obtain rfl := Option.some.inj hlast
          rw [hfile, Bool.not_false, Bool.and_true] at hasks
          exact ⟨fun he => hne (by simpa using he), hfold, Bool.eq_false_iff.mpr hasks⟩

/-- A path to a file does not end in a piece that stands for nothing. -/
theorem isIdle_eq_false_of_follow? {file : String} {pieces : List (List Char)} {name : List Char}
    (h : t.follow? file = some names) (hfile : t.isDirectory names = false)
    (hpieces : splitOn separator file.toList = pieces ++ [name]) : isIdle name = false := by
  obtain ⟨hne, hfold, hasks⟩ := follow?_file h hfile
  cases pieces with
  | cons p ps =>
      simp only [asksForDirectory, hpieces, List.getLast?_concat, Option.any_some] at hasks
      simpa using hasks
  | nil =>
      have hname : name ≠ [] := by
        rintro rfl
        rcases eq_of_splitOn_eq_nil_cons hpieces with ⟨hnil, -⟩ | ⟨rest, -, hmore⟩
        · exact hne hnil
        · exact splitOn_ne_nil separator rest hmore.symm
      have hcurrent : name ≠ ['.'] := by
        rintro rfl
        rw [components_of_splitOn hpieces (.inl (by decide))] at hfold
        have hreached : names = t.current := by
          simpa [firstOf, activePieces, step?, isDirectory_current] using hfold.symm
        rw [hreached, isDirectory_current] at hfile
        cases hfile
      simp [isIdle, hname, hcurrent]

/-- The components of the folder that the pieces of a path start with. -/
def enclosing : List (List Char) → List Component
  | [] => []
  | piece :: more => firstOf piece :: activePieces more

theorem components_of_pieces {path : String} {pieces rest : List (List Char)}
    (h : splitOn separator path.toList = pieces ++ rest) (hpieces : pieces ≠ [])
    (hrest : rest ≠ []) : components path = enclosing pieces ++ activePieces rest := by
  cases pieces with
  | nil => exact absurd rfl hpieces
  | cons piece more =>
      rw [List.cons_append] at h
      rw [components_of_splitOn h (.inr (by simp [hrest])), activePieces_append]
      rfl

/-- A path that ends in a name and is not absolute starts with a piece that says something or with
the current directory. -/
theorem splitOn_relative {entry : String} (hrelative : isAbsolute entry = false)
    (hname : (fileName? entry).isSome) :
    ∃ piece more, splitOn separator entry.toList = piece :: more ∧ piece ≠ [] ∧
      (more = [] → isIdle piece = false) := by
  obtain ⟨piece, more, hsplit⟩ := List.exists_cons_of_ne_nil (splitOn_ne_nil separator entry.toList)
  have hpiece : piece ≠ [] := by
    rintro rfl
    rcases eq_of_splitOn_eq_nil_cons hsplit with ⟨hnil, rfl⟩ | ⟨rest, hslash, -⟩
    · simp [fileName?, components, hsplit] at hname
    · simp [isAbsolute, hslash] at hrelative
  refine ⟨piece, more, hsplit, hpiece, ?_⟩
  rintro rfl
  have hdot : piece ≠ ['.'] := by
    rintro rfl
    rw [fileName?, components_of_splitOn hsplit (.inl hpiece)] at hname
    cases hname
  simp [isIdle, hpiece, hdot]

theorem foldlM_components_relative {entry : String} (hrelative : isAbsolute entry = false)
    (hname : (fileName? entry).isSome) :
    (components entry).foldlM t.step? t.current =
      (activePieces (splitOn separator entry.toList)).foldlM t.step? t.current := by
  obtain ⟨piece, more, hsplit, hpiece, -⟩ := splitOn_relative hrelative hname
  rw [components_of_splitOn hsplit (.inl hpiece), hsplit]
  by_cases hdot : piece = ['.']
  · -- the step to the current directory stays there
    have hstays : t.step? t.current .current = some t.current := by
      simp [step?.eq_def]
    have hskipped : activePieces (piece :: more) = activePieces more := by
      rw [hdot]
      rfl
    rw [hskipped, hdot, List.foldlM_cons]
    show (t.step? t.current .current).bind _ = _
    rw [hstays]
    rfl
  · have hidle : isIdle piece = false := by
      simp [isIdle, hpiece, hdot]
    rw [firstOf_of_not_isIdle hidle]
    simp [activePieces, hidle]

/-- The way to a file: through the folder that its path starts with, and on to its name. -/
theorem exists_directory {file : String} (h : t.follow? file = some names)
    (hfile : t.isDirectory names = false) :
    ∃ pieces directory name,
      (∀ text, splitOn separator (folder file.toList ++ text) =
        pieces ++ splitOn separator text) ∧
      (enclosing pieces).foldlM t.step? t.current = some directory ∧
      names = directory ++ [name] ∧
      fileName? file = some name := by
  obtain ⟨piece, hsplit, hsep⟩ := exists_name file.toList
  obtain ⟨pieces, hpieces⟩ := exists_pieces_folder file.toList
  have hfilePieces : splitOn separator file.toList = pieces ++ [piece] := by
    rw [hsplit, hpieces, splitOn_of_notMem hsep]
  have hidle : isIdle piece = false := isIdle_eq_false_of_follow? h hfile hfilePieces
  have hcomponents : components file = enclosing pieces ++ [.ofPiece piece] := by
    cases pieces with
    | nil =>
        have hpiece : piece ≠ [] := by
          rintro rfl
          cases hidle
        rw [components_of_splitOn hfilePieces (.inl hpiece), firstOf_of_not_isIdle hidle]
        rfl
    | cons first more =>
        rw [components_of_pieces hfilePieces (List.cons_ne_nil _ _) (List.cons_ne_nil _ _)]
        simp [activePieces, hidle]
  obtain ⟨-, hfold, -⟩ := follow?_file h hfile
  rw [hcomponents, List.foldlM_append] at hfold
  obtain ⟨directory, henclosing, hlast⟩ := Option.bind_eq_some_iff.mp hfold
  have hstep : t.step? directory (.ofPiece piece) = some names := by
    simpa using hlast
  have hdirectory := isDirectory_of_step? hstep
  have hname : Component.ofPiece piece = .name (String.ofList piece) := by
    rw [Component.ofPiece, if_neg]
    rintro rfl
    -- the step up from a directory ends at a directory
    have hup : names = directory.dropLast := by
      simpa [Component.ofPiece, step?, hdirectory] using hstep.symm
    rw [hup, isDirectory_dropLast hdirectory] at hfile
    cases hfile
  refine ⟨pieces, directory, String.ofList piece, hpieces, henclosing, ?_, ?_⟩
  · rw [hname] at hstep
    simpa [step?, hdirectory] using hstep.symm
  · simp [fileName?, hcomponents, hname]

/-- A path that stands in a file is followed from the directory of the file. -/
theorem follow?_beside {file entry : String} {pieces : List (List Char)}
    {directory : List String}
    (hpieces : ∀ text, splitOn separator (folder file.toList ++ text) =
      pieces ++ splitOn separator text)
    (henclosing : (enclosing pieces).foldlM t.step? t.current = some directory)
    (hrelative : isAbsolute entry = false) (hname : (fileName? entry).isSome) :
    t.follow? (beside file entry) = t.followFrom directory entry := by
  have hbeside : splitOn separator (beside file entry).toList =
      pieces ++ splitOn separator entry.toList := by
    rw [toList_beside hrelative, hpieces]
  obtain ⟨piece, more, hsplit, hpiece, hlast⟩ := splitOn_relative hrelative hname
  have hne : (beside file entry).isEmpty = false := by
    have hentry : entry.toList ≠ [] := by
      intro hnil
      rw [hnil] at hsplit
      exact hpiece (List.head_eq_of_cons_eq hsplit).symm
    simpa [← String.toList_eq_nil_iff, toList_beside hrelative] using fun _ => hentry
  have hwalk : (components (beside file entry)).foldlM t.step? t.current =
      (activePieces (splitOn separator entry.toList)).foldlM t.step? directory := by
    cases pieces with
    | nil =>
        have hentry : components (beside file entry) = components entry := by
          simp [components, hbeside]
        have hcurrent : t.current = directory := Option.some.inj henclosing
        rw [hentry, foldlM_components_relative hrelative hname, hcurrent]
    | cons first others =>
        simp [components_of_pieces hbeside (List.cons_ne_nil _ _) (splitOn_ne_nil _ _), henclosing]
  have hasks : asksForDirectory (beside file entry) =
      (splitOn separator entry.toList).getLast?.any isIdle := by
    rw [asksForDirectory, hbeside, hsplit]
    cases pieces with
    | nil =>
        cases more with
        | nil => simp [hlast rfl]
        | cons second others => simp
    | cons first others =>
        have hlength : 1 < (first :: others ++ piece :: more).length := by
          simp only [List.length_append, List.length_cons]
          omega
        simp only [hlength, decide_true, Bool.true_and, List.getLast?_append, List.getLast?_cons,
          Option.some_or]
  rw [follow?_eq, followFrom, hwalk, hasks, hne]
  rfl

/-- Two paths to one file end in the same name, and the same path in either file leads to one
place. -/
theorem follow?_beside_congr {file other : String} (h : t.follow? file = some names)
    (hother : t.follow? other = some names) (hfile : t.isDirectory names = false) :
    fileName? file = fileName? other ∧
      ∀ entry, (fileName? entry).isSome →
        t.follow? (beside file entry) = t.follow? (beside other entry) := by
  obtain ⟨ps, d, s, hps, hd, hnames, hs⟩ := exists_directory h hfile
  obtain ⟨qs, e, r, hqs, he, hnames', hr⟩ := exists_directory hother hfile
  obtain ⟨rfl, hsr⟩ := List.append_inj' (hnames.symm.trans hnames') rfl
  obtain rfl : s = r := List.head_eq_of_cons_eq hsr
  refine ⟨hs.trans hr.symm, fun entry hentry => ?_⟩
  cases habsolute : isAbsolute entry with
  | true => rw [beside, beside, if_pos habsolute, if_pos habsolute]
  | false => rw [follow?_beside hps hd habsolute hentry, follow?_beside hqs he habsolute hentry]

end FileTree

end Path
end TreeLint
