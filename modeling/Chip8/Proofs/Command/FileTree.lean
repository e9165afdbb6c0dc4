import Mathlib.Data.List.Infix
import Chip8.Command.FileTree
import Chip8.Proofs.Outcome

/-! # What writing a file does to a tree

A content that is written at the end of a path stands at one place, all other files stay as they
are, and the folders on the way are there behind it. Which paths can be written at all is read off
the tree: `write_eq_ok` says when `FileTree.write` goes through and what it comes to. A write that
fails changes no file, and the folders that it has made are on the way (`write_error`).
-/

namespace Chip8.Command

def Place.through (place : Place) : List String → List Place
  | [] => []
  | step :: later => place.enter step :: (place.enter step).through later

/-- The folders on the way of a path, behind the one where it starts. -/
def Path.way (path : String) : List Place := (start path).through (parts path).dropLast

/-- The place of a path is that of its last part in the folder that its other parts lead to. -/
theorem Path.place_eq_enter {path name : String} (last : (parts path).getLast? = some name) :
    place path = ((parts path).dropLast.foldl Place.enter (start path)).enter name := by
  obtain ⟨front, same⟩ := List.getLast?_eq_some_iff.mp last
  rw [place, same]
  simp

namespace Path

variable {path name : String} {step : List Char} {c : Char}

/-- Nothing but characters of a text is between the slashes in it. -/
theorem mem_of_mem_cut {text : List Char} (cuts : step ∈ cut text) (member : c ∈ step) :
    c ∈ text := by
  induction text generalizing step with
  | nil =>
    rw [cut, List.mem_singleton] at cuts
    rwa [cuts] at member
  | cons first rest ih =>
    rw [cut] at cuts
    split at cuts
    · rcases List.mem_cons.mp cuts with rfl | later
      · contradiction
      · exact List.mem_cons_of_mem _ (ih later member)
    · split at cuts
      · rw [List.mem_singleton] at cuts
        subst cuts
        exact List.mem_cons.mpr (.inl (List.mem_singleton.mp member))
      · rename_i inner later same
        rw [same] at ih
        rcases List.mem_cons.mp cuts with rfl | elsewhere
        · rcases List.mem_cons.mp member with rfl | member
          · exact List.mem_cons_self ..
          · exact List.mem_cons_of_mem _ (ih (List.mem_cons_self ..) member)
        · exact List.mem_cons_of_mem _ (ih (List.mem_cons_of_mem _ elsewhere) member)

/-- Nothing but characters of a path is in its parts. -/
theorem mem_of_mem_parts (part : name ∈ parts path) (member : c ∈ name.toList) :
    c ∈ path.toList := by
  obtain ⟨step, cuts, rfl⟩ := List.mem_map.mp (List.mem_filter.mp part).1
  rw [String.toList_ofList] at member
  exact mem_of_mem_cut cuts member

/-- A path is at least as long as that of the folder that its last part stands in. -/
theorem size_shown_le (anchor : String) (front : List String) (named : name ≠ "") :
    (shown anchor front).utf8ByteSize ≤ (shown anchor (front ++ [name])).utf8ByteSize := by
  have some_name : 0 < name.utf8ByteSize :=
    Nat.pos_of_ne_zero fun bare => named (String.utf8ByteSize_eq_zero_iff.mp bare)
  obtain ⟨rest, some_rest, longer⟩ : ∃ rest : String, 0 < rest.utf8ByteSize ∧
      anchor ++ "/".intercalate (front ++ [name]) = anchor ++ "/".intercalate front ++ rest := by
    cases front with
    | nil => exact ⟨name, some_name, by simp⟩
    | cons first later =>
      refine ⟨"/" ++ name, by rw [String.utf8ByteSize_append]; omega, ?_⟩
      rw [String.intercalate_append_of_ne_nil (by simp) (by simp)]
      simp [String.append_assoc]
  have long : anchor ++ "/".intercalate front ++ rest ≠ "" := by
    intro bare
    have size := congrArg String.utf8ByteSize bare
    rw [String.utf8ByteSize_append, String.utf8ByteSize_empty] at size
    omega
  unfold shown
  dsimp only
  rw [longer, if_neg long, String.utf8ByteSize_append]
  split
  · change 1 ≤ _
    omega
  · omega

end Path

namespace FileTree

variable {tree : FileTree} {place other : Place} {content : List UInt8}

def content? (tree : FileTree) (place : Place) : Option (List UInt8) :=
  (tree.files.find? (·.1 == place)).map Prod.snd

theorem find?_of_content? (holds : tree.content? place = some content) :
    tree.find? place = some (.file content) := by
  obtain ⟨⟨_, _⟩, found, rfl⟩ := Option.map_eq_some_iff.mp holds
  rw [find?, found]

theorem find?_of_no_content (bare : tree.content? place = none) :
    tree.find? place = if tree.isFolder place then some .folder else none := by
  rw [find?, Option.map_eq_none_iff.mp bare]

/-! ## Folders -/

theorem isAbove_iff : isAbove place other = true ↔ place <+: other ∧ place ≠ other := by
  simp [isAbove]

theorem isFolder_iff :
    tree.isFolder place = true ↔
      place = [] ∨ (∃ folder ∈ tree.folders, place <+: folder) ∨
        ∃ file ∈ tree.files, place <+: file.1 ∧ place ≠ file.1 := by
  have listed : (tree.folders.contains place || tree.folders.any (isAbove place)) = true ↔
      ∃ folder ∈ tree.folders, place <+: folder := by
    simp only [Bool.or_eq_true, List.contains_iff_mem, List.any_eq_true, isAbove_iff]
    constructor
    · rintro (here | ⟨folder, member, above, _⟩)
      · exact ⟨place, here, List.prefix_refl _⟩
      · exact ⟨folder, member, above⟩
    · rintro ⟨folder, member, above⟩
      by_cases same : place = folder
      · exact .inl (same ▸ member)
      · exact .inr ⟨folder, member, above, same⟩
  rw [isFolder, Bool.or_eq_true, Bool.or_assoc, Bool.or_eq_true, listed, List.isEmpty_iff,
    List.any_eq_true, or_assoc]
  simp only [isAbove_iff]

def withFolder (tree : FileTree) (place : Place) : FileTree :=
  if tree.isFolder place then tree else tree.addFolder place

theorem content?_withFolder : (tree.withFolder other).content? place = tree.content? place := by
  unfold withFolder
  split <;> rfl

theorem isFolder_withFolder :
    (tree.withFolder other).isFolder place = true ↔
      tree.isFolder place = true ∨ place <+: other := by
  unfold withFolder
  split
  · rename_i already
    -- what lies above a folder is one
    refine ⟨.inl, fun either => either.elim id fun above => isFolder_iff.mpr ?_⟩
    rcases isFolder_iff.mp already with rfl | ⟨folder, member, below⟩ | ⟨file, member, below, apart⟩
    · exact .inl (List.prefix_nil.mp above)
    · exact .inr (.inl ⟨folder, member, above.trans below⟩)
    · refine .inr (.inr ⟨file, member, above.trans below, ?_⟩)
      rintro rfl
      exact apart (below.eq_of_length_le above.length_le)
  · simp only [isFolder_iff, addFolder, List.mem_append, List.mem_singleton]
    grind

theorem content?_withFolders (places : List Place) :
    (places.foldl withFolder tree).content? place = tree.content? place := by
  induction places generalizing tree with
  | nil => rfl
  | cons first later ih => rw [List.foldl_cons, ih, content?_withFolder]

theorem isFolder_withFolders (places : List Place) :
    (places.foldl withFolder tree).isFolder place = true ↔
      tree.isFolder place = true ∨ ∃ folder ∈ places, place <+: folder := by
  induction places generalizing tree with
  | nil => simp
  | cons first later ih => simp [ih, isFolder_withFolder, or_assoc]

theorem isFolder_withFolders_false (places : List Place) :
    (places.foldl withFolder tree).isFolder place = false ↔
      tree.isFolder place = false ∧ ∀ folder ∈ places, ¬place <+: folder := by
  rw [← Bool.not_eq_true, isFolder_withFolders, not_or, Bool.not_eq_true]
  simp only [not_exists, not_and]

theorem run_makeFolders_cons (anchor : String) (done : List String) (place : Place) (missed : Bool)
    (step : String) (later : List String) (tree : FileTree) :
    (makeFolders anchor done place missed (step :: later)).run tree =
      let asked := if missed then [step] else step :: later
      let path := Path.shown anchor (done ++ asked)
      if Path.maxNameSize < step.utf8ByteSize then .error (.tooLong path) tree
      else
        match tree.find? (place.enter step) with
        | some (.file _) => .error (if asked = [step] then .isFile path else .blocked path) tree
        | some .folder =>
          (makeFolders anchor (done ++ [step]) (place.enter step) missed later).run tree
        | none =>
          (makeFolders anchor (done ++ [step]) (place.enter step) true later).run
            (tree.addFolder (place.enter step)) := by
  rw [makeFolders]
  dsimp only
  split
  · rfl
  · simp only [EStateM.run_bind, EStateM.run_get]
    cases tree.find? (place.enter step) with
    | none => rfl
    | some node => cases node <;> rfl

/-- Folders are made on a way exactly when no name on it is too long and no file is on it, and they
are all there behind it. -/
theorem makeFolders_eq_ok {anchor : String} {done steps : List String} {missed : Bool}
    {made : FileTree} {last : Place} :
    (makeFolders anchor done place missed steps).run tree = .ok last made ↔
      (∀ step ∈ steps, step.utf8ByteSize ≤ Path.maxNameSize) ∧
        (∀ folder ∈ place.through steps, tree.content? folder = none) ∧
        made = (place.through steps).foldl withFolder tree ∧
        last = steps.foldl Place.enter place := by
  induction steps generalizing tree place done missed with
  | nil => simp [makeFolders, Place.through, eq_comm, and_comm]
  | cons step later ih =>
    rw [run_makeFolders_cons, Place.through, List.foldl_cons, List.foldl_cons,
      List.forall_mem_cons, List.forall_mem_cons]
    dsimp only
    by_cases long : Path.maxNameSize < step.utf8ByteSize
    · rw [if_pos long]
      exact iff_of_false nofun fun ⟨⟨short, _⟩, _⟩ => absurd long (Nat.not_lt.mpr short)
    rw [if_neg long]
    have short := Nat.not_lt.mp long
    -- files are looked up first: what is none may still be a folder
    cases holds : tree.content? (place.enter step) with
    | some content =>
      rw [find?_of_content? holds]
      simp
    | none =>
      rw [find?_of_no_content holds, withFolder]
      by_cases already : tree.isFolder (place.enter step) = true
      · rw [if_pos already, if_pos already]
        simp [ih, short]
      · rw [if_neg already, if_neg already]
        simp [ih, short, addFolder, content?]

/-- A tree has gained nothing but folders, all of them at some places. -/
structure GainsFolders (tree after : FileTree) (places : List Place) : Prop where
  files : after.files = tree.files
  folders : ∀ folder ∈ after.folders, folder ∈ tree.folders ∨ folder ∈ places

/-- What steps leave behind, whether they go through or fail. -/
def Writing.left {α : Type} (steps : Writing α) (tree : FileTree) : FileTree :=
  match steps.run tree with
  | .ok _ after | .error _ after => after

theorem GainsFolders.refl (places : List Place) : tree.GainsFolders tree places :=
  ⟨rfl, fun _ => .inl⟩

theorem GainsFolders.later {after : FileTree} {places : List Place}
    (gains : tree.GainsFolders after places) : tree.GainsFolders after (place :: places) :=
  ⟨gains.files, fun folder member => (gains.folders folder member).imp_right (.tail _)⟩

theorem GainsFolders.of_addFolder {after : FileTree} {places : List Place}
    (gains : (tree.addFolder place).GainsFolders after places) :
    tree.GainsFolders after (place :: places) := by
  refine ⟨gains.files, fun folder member => ?_⟩
  rcases gains.folders folder member with earlier | later
  · rcases List.mem_append.mp earlier with earlier | here
    · exact .inl earlier
    · exact .inr (List.mem_cons.mpr (.inl (List.mem_singleton.mp here)))
  · exact .inr (.tail _ later)

/-- Steps that make folders leave behind no others than those that they lead through, also if they
fail on the way. -/
theorem gainsFolders_makeFolders (anchor : String) (done steps : List String) (place : Place)
    (missed : Bool) (tree : FileTree) :
    tree.GainsFolders ((makeFolders anchor done place missed steps).left tree)
      (place.through steps) := by
  induction steps generalizing tree place done missed with
  | nil => exact .refl _
  | cons step later ih =>
    rw [Writing.left, run_makeFolders_cons]
    dsimp only
    by_cases long : Path.maxNameSize < step.utf8ByteSize
    · rw [if_pos long]
      exact .refl _
    rw [if_neg long]
    cases tree.find? (place.enter step) with
    | none => exact (ih _ _ _ _).of_addFolder
    | some node =>
      cases node with
      | file content => exact .refl _
      | folder => exact (ih _ _ _ _).later

/-! ## Files -/

/-- A content that is put at a place is there, and what stands at other places stays. -/
theorem content?_put :
    (tree.put place content).content? other =
      if other = place then some content else tree.content? other := by
  unfold put content?
  split
  · rename_i listed
    have same : ((fun file : Place × List UInt8 => file.1 == other) ∘
        fun file => if file.1 == place then (place, content) else file) = (·.1 == other) := by
      funext file
      by_cases here : file.1 = place <;> simp [here]
    rw [List.find?_map, same]
    cases found : tree.files.find? (·.1 == other) with
    | none =>
      have apart : other ≠ place := by
        rintro rfl
        obtain ⟨file, member, here⟩ := List.any_eq_true.mp listed
        exact List.find?_eq_none.mp found file member here
      rw [if_neg apart]
      rfl
    | some file =>
      obtain rfl : file.1 = other := by simpa using List.find?_some found
      by_cases here : file.1 = place <;> simp [here]
  · rename_i unlisted
    rw [List.find?_append]
    by_cases here : other = place
    · have absent : tree.files.find? (·.1 == place) = none :=
        List.find?_eq_none.mpr fun file member same =>
          unlisted (List.any_eq_true.mpr ⟨file, member, same⟩)
      simp [here, absent]
    · simp [here, Ne.symm here]

/-- A path at which a file can be written. -/
structure Writable (tree : FileTree) (path : String) : Prop where
  /-- The path names something. -/
  named : Path.parts path ≠ []
  usable : '\x00' ∉ path.toList
  short : Path.isTooLong path = false
  /-- There are no files where folders are needed. -/
  passable : ∀ folder ∈ Path.way path, tree.content? folder = none
  /-- There is no folder where the file is needed, nor does the path lead through one. -/
  free : (tree.content? (Path.place path)).isSome ∨
    tree.isFolder (Path.place path) = false ∧ ∀ folder ∈ Path.way path, ¬Path.place path <+: folder

/-- A path on whose way folders can be made. -/
structure Passable (tree : FileTree) (path : String) : Prop where
  usable : ∀ name ∈ (Path.parts path).dropLast, '\x00' ∉ name.toList
  short : (Path.parentText path).utf8ByteSize ≤ Path.maxSize
  names : ∀ name ∈ (Path.parts path).dropLast, name.utf8ByteSize ≤ Path.maxNameSize
  bare : ∀ folder ∈ Path.way path, tree.content? folder = none

/-- What comes of the folders on the way of a path. -/
theorem run_makeWay (path : String) (tree : FileTree) :
    (makeWay path).run tree =
      if (Path.parts path).dropLast.any (·.toList.contains '\x00') then .error .unusable tree
      else if Path.maxSize < (Path.parentText path).utf8ByteSize then
        .error (.tooLong (Path.parentText path)) tree
      else (makeFolders (Path.anchor path) [] (Path.start path) false
        (Path.parts path).dropLast).run tree := by
  rw [makeWay]
  dsimp only
  split
  · rfl
  · split <;> rfl

theorem makeWay_eq_ok {path : String} {made : FileTree} {folder : Place} :
    (makeWay path).run tree = .ok folder made ↔
      tree.Passable path ∧ made = (Path.way path).foldl withFolder tree ∧
        folder = (Path.parts path).dropLast.foldl Place.enter (Path.start path) := by
  rw [run_makeWay]
  split
  · rename_i unusable
    obtain ⟨name, member, nul⟩ := List.any_eq_true.mp unusable
    exact ⟨nofun, fun ⟨passable, _⟩ =>
      absurd (List.contains_iff_mem.mp nul) (passable.usable name member)⟩
  rename_i usable
  split
  · rename_i long
    exact ⟨nofun, fun ⟨passable, _⟩ => absurd passable.short (Nat.not_le.mpr long)⟩
  rename_i short
  rw [makeFolders_eq_ok, ← Path.way]
  constructor
  · rintro ⟨names, bare, rest⟩
    refine ⟨⟨fun name member nul => usable ?_, Nat.not_lt.mp short, names, bare⟩, rest⟩
    exact List.any_eq_true.mpr ⟨name, member, List.contains_iff_mem.mpr nul⟩
  · rintro ⟨passable, rest⟩
    exact ⟨passable.names, passable.bare, rest⟩

theorem gainsFolders_makeWay (path : String) (tree : FileTree) :
    tree.GainsFolders ((makeWay path).left tree) (Path.way path) := by
  rw [Writing.left, run_makeWay]
  by_cases unusable : (Path.parts path).dropLast.any (·.toList.contains '\x00') = true
  · rw [if_pos unusable]
    exact .refl _
  rw [if_neg unusable]
  by_cases long : Path.maxSize < (Path.parentText path).utf8ByteSize
  · rw [if_pos long]
    exact .refl _
  rw [if_neg long]
  exact gainsFolders_makeFolders ..

/-- A path that can be written has a way on which folders can be made. -/
theorem Writable.way {path : String} (writable : tree.Writable path) : tree.Passable path where
  usable name member nul :=
    writable.usable (Path.mem_of_mem_parts (List.dropLast_subset _ member) nul)
  short := by
    obtain ⟨front, name, same⟩ : ∃ front name, Path.parts path = front ++ [name] :=
      ⟨_, _, (List.dropLast_append_getLast writable.named).symm⟩
    have named : name ≠ "" := by
      have member : name ∈ Path.parts path := by simp [same]
      have kept := (List.mem_filter.mp member).2
      rw [Bool.and_eq_true, bne_iff_ne] at kept
      exact kept.1
    have long := Path.size_shown_le (Path.anchor path) front named
    have whole := writable.short
    rw [Path.isTooLong, Bool.or_eq_false_iff, decide_eq_false_iff_not, Nat.not_lt, Path.text,
      same] at whole
    rw [Path.parentText, same, List.dropLast_concat]
    exact long.trans whole.1
  names name member := by
    have whole := writable.short
    rw [Path.isTooLong, Bool.or_eq_false_iff, List.any_eq_false] at whole
    simpa using whole.2 name (List.dropLast_subset _ member)
  bare := writable.passable

/-- What comes of a content that is put at the end of a path. -/
theorem run_putFile (path : String) (content : List UInt8) (folder : Place) (tree : FileTree) :
    (putFile path content folder).run tree =
      if path.toList.contains '\x00' then .error .unusable tree
      else if Path.isTooLong path then .error (.tooLong (Path.text path)) tree
      else
        match (Path.parts path).getLast? with
        | none => .error (.isFolder (Path.text path)) tree
        | some name =>
          match tree.find? (folder.enter name) with
          | some .folder => .error (.isFolder (Path.text path)) tree
          | _ => .ok () (tree.put (folder.enter name) content) := by
  rw [putFile]
  dsimp only
  split
  · rfl
  split
  · rfl
  cases (Path.parts path).getLast? with
  | none => rfl
  | some name =>
    simp only [EStateM.run_bind, EStateM.run_get]
    cases tree.find? (folder.enter name) with
    | none => rfl
    | some node => cases node <;> rfl

/-- A content goes to the place of a path unless there is a folder and no file yet. -/
theorem putFile_eq_ok {path : String} {folder : Place} {after : FileTree} :
    (putFile path content folder).run tree = .ok () after ↔
      '\x00' ∉ path.toList ∧ Path.isTooLong path = false ∧
        ∃ name, (Path.parts path).getLast? = some name ∧
          ((tree.content? (folder.enter name)).isSome ∨
            tree.isFolder (folder.enter name) = false) ∧
          after = tree.put (folder.enter name) content := by
  rw [run_putFile]
  split
  · rename_i unusable
    exact ⟨nofun, fun ⟨usable, _⟩ => absurd (List.contains_iff_mem.mp unusable) usable⟩
  rename_i usable
  rw [List.contains_iff_mem] at usable
  split
  · rename_i long
    exact ⟨nofun, fun ⟨_, short, _⟩ => absurd long (Bool.eq_false_iff.mp short)⟩
  rename_i short
  rw [Bool.not_eq_true] at short
  cases (Path.parts path).getLast? with
  | none => simp
  | some name =>
    simp only [usable, not_false_eq_true, short, true_and, Option.some.injEq, exists_eq_left']
    cases holds : tree.content? (folder.enter name) with
    | some old =>
      rw [find?_of_content? holds]
      simpa using eq_comm
    | none =>
      rw [find?_of_no_content holds]
      cases tree.isFolder (folder.enter name) with
      | true => simp
      | false => simpa using eq_comm

/-- A content that cannot be put at the end of a path leaves the tree as it was. -/
theorem eq_of_putFile_error {path : String} {folder : Place} {failure : FileError}
    {after : FileTree} (failed : (putFile path content folder).run tree = .error failure after) :
    after = tree := by
  rw [run_putFile] at failed
  split at failed
  · cases failed
    rfl
  split at failed
  · cases failed
    rfl
  split at failed
  · cases failed
    rfl
  split at failed
  · cases failed
    rfl
  · cases failed

/-- A path can be written exactly if it is writable, and then its file and the folders on its way
are all that the tree gains. -/
theorem write_eq_ok {path : String} {files : FileTree} :
    (write path content).run tree = .ok () files ↔
      tree.Writable path ∧
        files = ((Path.way path).foldl withFolder tree).put (Path.place path) content := by
  rw [write, EStateM.run_bind]
  constructor
  · intro went
    cases makes : (makeWay path).run tree with
    | error failure made =>
      rw [makes] at went
      cases went
    | ok folder made =>
      rw [makes] at went
      obtain ⟨passable, rfl, rfl⟩ := makeWay_eq_ok.mp makes
      obtain ⟨usable, short, name, last, room, rfl⟩ := putFile_eq_ok.mp went
      rw [← Path.place_eq_enter last] at room ⊢
      rw [content?_withFolders, isFolder_withFolders_false] at room
      refine ⟨⟨?_, usable, short, passable.bare, room⟩, rfl⟩
      exact fun bare => by simp [bare] at last
  · rintro ⟨writable, rfl⟩
    rw [makeWay_eq_ok.mpr ⟨writable.way, rfl, rfl⟩]
    have last := List.getLast?_eq_some_getLast writable.named
    refine putFile_eq_ok.mpr ⟨writable.usable, writable.short, _, last, ?_⟩
    rw [← Path.place_eq_enter last, content?_withFolders, isFolder_withFolders_false]
    exact ⟨writable.free, rfl⟩

/-- A write that fails leaves nothing behind but folders on the way of its path. -/
theorem write_error {path : String} {failure : FileError} {after : FileTree}
    (failed : (write path content).run tree = .error failure after) :
    tree.GainsFolders after (Path.way path) := by
  rw [write, EStateM.run_bind] at failed
  have gains := gainsFolders_makeWay path tree
  rw [Writing.left] at gains
  cases makes : (makeWay path).run tree with
  | error failure made =>
    rw [makes] at failed gains
    cases failed
    exact gains
  | ok folder made =>
    rw [makes] at failed gains
    obtain rfl := eq_of_putFile_error failed
    exact gains

/-- Behind a write the file of the path has the content that was written, and no other file was
made or changed. -/
theorem content?_of_write {path : String} {files : FileTree}
    (wrote : (write path content).run tree = .ok () files) :
    files.content? (Path.place path) = some content ∧
      ∀ other ≠ Path.place path, files.content? other = tree.content? other := by
  obtain ⟨_, rfl⟩ := write_eq_ok.mp wrote
  constructor
  · rw [content?_put, if_pos rfl]
  · intro other apart
    rw [content?_put, if_neg apart, content?_withFolders]

end FileTree

end Chip8.Command
